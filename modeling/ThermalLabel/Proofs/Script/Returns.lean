/-
  The carriage returns of a script.

  Every line of a script ends with a carriage return. Numbers, the names of images and their data
  hold none of their own; the text of a record, the data of a barcode and its symbology are taken
  over as they are given and may hold some. So a script has one carriage return for each line of
  its frame, for each image line and for each record, and those that the texts of its records
  bring along (`Label.count_script`).
-/
import ThermalLabel.Proofs.Fallible
import ThermalLabel.Proofs.Number.Characters
import ThermalLabel.Script.Label

namespace ThermalLabel

open Decimal (IsWritten)

/-! ## Records -/

namespace Record

/-- The text that a record takes over as it is given. -/
def fieldText : Record → Text
  | text _ _ body => body
  | qrCode _ _ code => code
  | barcode symbology _ _ code => symbology ++ code
  | box .. | circle .. | line .. | recallImage .. => []

/-- A record that recalls an image names it by word characters. -/
def IsNamed (r : Record) : Prop := ∀ y x name, r = .recallImage y x name → name.all Text.isWord

theorem count_of_isWritten {t : Text} (h : IsWritten t) : t.count '\r' = 0 :=
  List.count_eq_zero_of_not_mem fun hmem => (h _ hmem).ne_return rfl

theorem count_of_all {p : Char → Bool} (hp : p '\r' = false) {t : Text} (h : t.all p) :
    t.count '\r' = 0 := by
  refine List.count_eq_zero_of_not_mem fun hmem => ?_
  have hreturn := List.all_eq_true.mp h _ hmem
  rw [hp] at hreturn
  cases hreturn

theorem isWord_return : Text.isWord '\r' = false := by decide

theorem isHexadecimal_return : StoredImage.isHexadecimal '\r' = false := by decide

/-- Of the texts in a record only those taken over as they are given hold carriage returns. -/
theorem count_body {r : Record} (h : r.IsNamed) : r.body.count '\r' = r.fieldText.count '\r' := by
  have hposition : ∀ p : Position, p.field.count '\r' = 0 := fun p =>
    count_of_isWritten p.isWritten_field
  have hsize : ∀ s : Size, s.field.count '\r' = 0 := fun s =>
    count_of_isWritten s.isWritten_field
  cases r with
  | recallImage y x name =>
    have hname := count_of_all isWord_return (h y x name rfl)
    simp [body, fieldText, hposition, hname]
  | text | qrCode | barcode => simp [body, fieldText, hposition]
  | box | circle | line => simp [body, fieldText, hposition, hsize]

theorem count_render {r : Record} (h : r.IsNamed) :
    r.render.count '\r' = r.fieldText.count '\r' + 1 := by
  rw [render, List.count_append, count_body h]
  rfl

end Record

/-! ## Labels -/

namespace StoredImage

/-- The name has word characters only and the data are hexadecimal. -/
structure IsChecked (image : StoredImage) : Prop where
  name : image.name.all Text.isWord
  data : image.data.all isHexadecimal

theorem eq_of_make {name data : Text} {image : StoredImage} (h : make name data = .ok image) :
    image = ⟨name, data⟩ := by
  unfold make at h
  split at h
  · cases h
  · split at h
    · cases h
    · cases h
      rfl

theorem isChecked_of_make {name data : Text} {image : StoredImage}
    (h : make name data = .ok image) : image.IsChecked := by
  unfold make at h
  split at h
  · cases h
  · next hname =>
    split at h
    · cases h
    · next hdata =>
      cases h
      rw [not_or, Decidable.not_not] at hname
      exact ⟨hname.2, Decidable.not_not.mp hdata⟩

theorem count_render {image : StoredImage} (h : image.IsChecked) :
    image.render.count '\r' = 2 := by
  have hname := Record.count_of_all Record.isWord_return h.name
  have hdata := Record.count_of_all Record.isHexadecimal_return h.data
  simp [render, hname, hdata]

end StoredImage

namespace Label

/-- Images and records have no names but of word characters, and images have hexadecimal data. -/
structure IsChecked (label : Label) : Prop where
  images : ∀ image ∈ label.images, image.IsChecked
  records : ∀ r ∈ label.records, r.IsNamed

/-- The carriage returns in the texts that the records take over. -/
def fieldReturns (label : Label) : Nat :=
  (label.records.flatMap Record.fieldText).count '\r'

theorem fieldReturns_eq_zero_iff {label : Label} :
    label.fieldReturns = 0 ↔ ∀ r ∈ label.records, '\r' ∉ r.fieldText := by
  unfold fieldReturns
  rw [List.count_eq_zero, List.mem_flatMap]
  simp only [not_exists, not_and]

theorem count_imageLines {images : List StoredImage} (h : ∀ image ∈ images, image.IsChecked) :
    (images.flatMap StoredImage.render).count '\r' = 2 * images.length := by
  induction images with
  | nil => rfl
  | cons image images ih =>
    rw [List.forall_mem_cons] at h
    rw [List.flatMap_cons, List.count_append, StoredImage.count_render h.1, ih h.2,
      List.length_cons]
    omega

theorem count_layoutLines {records : List Record} (h : ∀ r ∈ records, r.IsNamed) :
    (records.flatMap Record.render).count '\r' =
      records.length + (records.flatMap Record.fieldText).count '\r' := by
  induction records with
  | nil => rfl
  | cons r records ih =>
    rw [List.forall_mem_cons] at h
    rw [List.flatMap_cons, List.count_append, Record.count_render h.1, ih h.2, List.length_cons,
      List.flatMap_cons, List.count_append]
    omega

theorem count_script {label : Label} (h : label.IsChecked) :
    label.script.count '\r' =
      3 + label.config.count '\r' + 2 * label.images.length + label.records.length +
        label.fieldReturns := by
  have hframe : label.script.count '\r' =
      3 + label.config.count '\r' + label.imageLines.count '\r' + label.layoutLines.count '\r' := by
    simp [script]
    omega
  rw [hframe, imageLines, layoutLines, count_imageLines h.images, count_layoutLines h.records,
    fieldReturns]
  omega

end Label

/-! ## Figures -/

namespace Figure

/-- The texts of a figure that its record can take over. -/
def fieldText : Figure → Text
  | text _ _ body => body
  | barcode _ _ code symbology => symbology ++ code
  | box .. | circle .. | line .. | recallImage .. => []

/-- The record of a figure takes over no other texts, and recalls only what the figure recalls. -/
theorem record_texts {figure : Figure} : ∀ r, figure.record = .ok r →
    (∀ c ∈ r.fieldText, c ∈ figure.fieldText) ∧
      ∀ row column name, r = .recallImage row column name →
        ∃ x y, figure = .recallImage x y name := by
  cases figure with
  | text x y body =>
    refine forall_ok_bind fun row _ => forall_ok_bind fun column _ r h => ?_
    cases h
    exact ⟨fun c hc => hc, fun _ _ _ h => by cases h⟩
  | barcode x y code symbology =>
    refine forall_ok_bind fun row _ => forall_ok_bind fun column _ r h => ?_
    cases h
    split
    · exact ⟨fun c hc => List.mem_append_right _ hc, fun _ _ _ h => by cases h⟩
    · exact ⟨fun c hc => hc, fun _ _ _ h => by cases h⟩
  | box | line =>
    refine forall_ok_bind fun row _ => forall_ok_bind fun column _ =>
      forall_ok_bind fun bottom _ => forall_ok_bind fun endRow _ =>
      forall_ok_bind fun right _ => forall_ok_bind fun endColumn _ =>
      forall_ok_bind fun size _ r h => ?_
    cases h
    exact ⟨fun _ hc => absurd hc List.not_mem_nil, fun _ _ _ h => by cases h⟩
  | circle =>
    refine forall_ok_bind fun row _ => forall_ok_bind fun column _ =>
      forall_ok_bind fun across _ => forall_ok_bind fun size _ r h => ?_
    cases h
    exact ⟨fun _ hc => absurd hc List.not_mem_nil, fun _ _ _ h => by cases h⟩
  | recallImage x y name =>
    refine forall_ok_bind fun row _ => forall_ok_bind fun column _ r h => ?_
    cases h
    refine ⟨fun _ hc => absurd hc List.not_mem_nil, fun _ _ _ h => ?_⟩
    cases h
    exact ⟨x, y, rfl⟩

end Figure

end ThermalLabel
