/-
  What a design draws.

  Every image of a design is stored under a name of word characters, and every record is what one
  of the placed elements was resolved to (`exists_figure_of_mem_records`). Its texts are those of
  the element, and these come from three of its attributes.
-/
import ThermalLabel.Proofs.Design.Resolving

namespace ThermalLabel

/-! ## Elements of a design -/

namespace Element

/-- The texts of an element that its record can take over. -/
def fieldText : Element → Text
  | text _ _ body => body
  | barcode _ _ data symbology => symbology ++ data
  | box .. | circle .. | line .. | image .. => []

theorem fieldText_of_figure? {stored : Option Text} {e : Element} {figure : Figure}
    (h : e.figure? stored = some figure) :
    figure.fieldText = e.fieldText ∧
      ∀ x y name, figure = .recallImage x y name → stored = some name := by
  cases e with
  | text | barcode | box | circle | line =>
    cases h
    exact ⟨rfl, fun _ _ _ h => by cases h⟩
  | image =>
    obtain ⟨name, hstored, hfigure⟩ := Option.map_eq_some_iff.mp h
    subst hfigure
    refine ⟨rfl, fun _ _ _ h => ?_⟩
    cases h
    exact hstored

/-- All that can become of a resolved element. -/
theorem outcome_cases {stored : Option Text} {e : Element} {result : ElementOutcome}
    (h : e.outcome stored = .ok result) :
    (e.figure? stored = none ∧ result = .silent) ∨
      ∃ figure, e.figure? stored = some figure ∧
        ((∃ record, figure.record = .ok record ∧ result = .drawn record) ∨
          ∃ reason, figure.record = .error reason ∧ reason.diagnosticKind?.isSome ∧
            result = .skipped (.fault reason)) := by
  unfold outcome at h
  split at h
  · next hfigure =>
    cases h
    exact .inl ⟨hfigure, rfl⟩
  · next figure hfigure =>
    refine .inr ⟨figure, hfigure, ?_⟩
    split at h
    · next record hrecord =>
      cases h
      exact .inl ⟨record, hrecord, rfl⟩
    · next reason hrecord =>
      obtain ⟨cause, hcause, rfl⟩ := map_eq_ok_iff.mp h
      obtain ⟨hkind, rfl⟩ := Cause.ofFault_eq_ok_iff.mp hcause
      exact .inr ⟨reason, hrecord, hkind, rfl⟩

theorem exists_figure_of_outcome {stored : Option Text} {e : Element} {r : Record}
    (h : e.outcome stored = .ok (.drawn r)) :
    ∃ figure, e.figure? stored = some figure ∧ figure.record = .ok r := by
  rcases outcome_cases h with ⟨-, hsilent⟩ | ⟨figure, hfigure, ⟨record, hrecord, hdrawn⟩ | hskipped⟩
  · cases hsilent
  · cases hdrawn
    exact ⟨figure, hfigure, hrecord⟩
  · obtain ⟨_, -, -, hskipped⟩ := hskipped
    cases hskipped

end Element

namespace PlacedElement

variable {e : PlacedElement}

theorem return_mem_of_symbology {symbology : Text} (h : e.symbology = .ok symbology)
    (hreturn : '\r' ∈ symbology) : '\r' ∈ e.drawnText "type" := by
  unfold PlacedElement.symbology at h
  unfold drawnText
  cases hgiven : e.attribute? "type" with
  | none =>
    rw [hgiven] at h
    cases h
    exact absurd hreturn (by decide)
  | some given =>
    rw [hgiven] at h
    cases given with
    | text t =>
      simp only [Option.getD_some, Except.ok.injEq] at h
      subst h
      split at hreturn
      · exact absurd hreturn (by decide)
      · exact hreturn
    | number | flag | missing => cases h

/-- A carriage return in a text of an element comes from one of the attributes for texts. -/
theorem return_mem_of_resolve : ∀ element, e.resolve = .ok element → '\r' ∈ element.fieldText →
    ∃ name ∈ ["text", "data", "type"], '\r' ∈ e.drawnText name := by
  refine forall_ok_bind fun x _ => forall_ok_bind fun y _ => ?_
  unfold resolveAt
  split
  · intro element h
    cases h
  · intro element h hreturn
    cases h
    exact ⟨"text", by decide, hreturn⟩
  · refine forall_ok_bind fun symbology hsymbology element h hreturn => ?_
    cases h
    rcases List.mem_append.mp hreturn with hreturn | hreturn
    · exact ⟨"type", by decide, return_mem_of_symbology hsymbology hreturn⟩
    · exact ⟨"data", by decide, hreturn⟩
  · refine forall_ok_bind fun width _ => forall_ok_bind fun height _ =>
      forall_ok_bind fun thickness _ element h hreturn => ?_
    cases h
    cases hreturn
  · refine forall_ok_bind fun diameter _ =>
      forall_ok_bind fun thickness _ element h hreturn => ?_
    cases h
    cases hreturn
  · refine forall_ok_bind fun width _ => forall_ok_bind fun height _ =>
      forall_ok_bind fun thickness _ element h hreturn => ?_
    cases h
    cases hreturn
  · refine forall_ok_bind fun source _ => forall_ok_bind fun name _ element h hreturn => ?_
    cases h
    cases hreturn

end PlacedElement

namespace Loading

variable {l : Loading}

theorem isChecked_of_acquire {image : Nat} {source : Quantity} {name : Text} {stored : StoredImage}
    (h : l.acquire image source name = .ok (.stored stored)) : stored.IsChecked := by
  cases acquired_of_acquire h with
  | stored _ _ _ _ made => exact StoredImage.isChecked_of_make made

theorem isChecked_of_acquireAll {plans : List ImagePlan} {image : Nat} {results : List ImageResult}
    (h : (l.acquireAll image plans).2 = .ok results) :
    ∀ r ∈ results, ∀ stored, r.image? = some stored → stored.IsChecked := by
  intro r hr stored hstored
  rw [acquireAll_results] at h
  obtain ⟨⟨number, plan⟩, -, hresult⟩ := exists_of_mem_mapM h hr
  cases plan with
  | taken i name =>
    cases hresult
    cases hstored
  | load i source name =>
    obtain ⟨outcome, houtcome, hr⟩ := bind_eq_ok_iff.mp hresult
    cases hr
    cases outcome with
    | stored made =>
      cases hstored
      exact isChecked_of_acquire houtcome
    | skipped cause => cases hstored

end Loading

namespace DesignConversion

variable {loading : Loading} {settings : ImageSettings} {config : Text}
  {placed : List PlacedElement} {d : DesignConversion}

theorem ofLoading_eq_ok (h : (ofLoading loading config placed).2 = .ok d) :
    d.config = config ∧
      placed.mapM (fun e => do return (e, ← resolution e)) = .ok d.elements ∧
      loading.acquireAll 0 (ImagePlan.ofElements (resolved d.elements)) =
        ((ofLoading loading config placed).1, .ok d.images) ∧
      draw d.images (resolved d.elements) = .ok d.layout := by
  unfold ofLoading at h ⊢
  split at h
  · cases h
  · next elements helements =>
    obtain ⟨images, himages, h⟩ := bind_eq_ok_iff.mp h
    obtain ⟨layout, hlayout, h⟩ := bind_eq_ok_iff.mp h
    cases h
    exact ⟨rfl, helements, Prod.ext rfl himages, hlayout⟩

theorem ofElements_eq_ok (h : (ofElements settings config placed).2 = .ok d) :
    d.config = config ∧
      placed.mapM (fun e => do return (e, ← resolution e)) = .ok d.elements ∧
      (settings.loading.acquireAll 0 (ImagePlan.ofElements (resolved d.elements))).2 =
        .ok d.images ∧
      draw d.images (resolved d.elements) = .ok d.layout := by
  obtain ⟨hconfig, helements, himages, hlayout⟩ := ofLoading_eq_ok h
  exact ⟨hconfig, helements, congrArg Prod.snd himages, hlayout⟩

theorem isChecked_of_mem_images (h : (ofElements settings config placed).2 = .ok d)
    {r : ImageResult} (hr : r ∈ d.images) {image : StoredImage} (himage : r.image? = some image) :
    image.IsChecked :=
  Loading.isChecked_of_acquireAll (ofElements_eq_ok h).2.2.1 r hr image himage

/-- A record is what one of the placed elements was resolved to. -/
theorem exists_figure_of_mem_records (h : (ofElements settings config placed).2 = .ok d)
    {r : Record} (hr : r ∈ d.label.records) :
    ∃ e ∈ placed, ∃ (i : Nat) (element : Element) (figure : Figure), e.resolve = .ok element ∧
      element.figure? (storedName? d.images i) = some figure ∧ figure.record = .ok r := by
  obtain ⟨-, helements, -, hdraw⟩ := ofElements_eq_ok h
  obtain ⟨⟨i, element, outcome⟩, hmem, hrecord⟩ := List.mem_filterMap.mp hr
  obtain ⟨⟨i', element'⟩, hresolved, hitem⟩ := exists_of_mem_mapM hdraw hmem
  obtain ⟨outcome', houtcome, hitem⟩ := bind_eq_ok_iff.mp hitem
  cases hitem
  cases outcome with
  | skipped | silent => cases hrecord
  | drawn record =>
    cases hrecord
    obtain ⟨figure, hfigure, hrecord⟩ := Element.exists_figure_of_outcome houtcome
    rw [resolved_eq helements] at hresolved
    obtain ⟨e, hat, hresolve⟩ := PlacedElement.mem_resolveAll_iff.mp hresolved
    exact ⟨e, List.mem_of_getElem? hat, _, _, figure, hresolve, hfigure, hrecord⟩

theorem isChecked_label (h : (ofElements settings config placed).2 = .ok d) :
    d.label.IsChecked := by
  refine ⟨fun image himage => ?_, fun r hr y x name hname => ?_⟩
  · obtain ⟨r, hr, himage⟩ := List.mem_filterMap.mp himage
    exact isChecked_of_mem_images h hr himage
  · obtain ⟨e, -, i, element, figure, -, hfigure, hrecord⟩ := exists_figure_of_mem_records h hr
    obtain ⟨column, row, rfl⟩ := (Figure.record_texts r hrecord).2 y x name hname
    have hstored := (Element.fieldText_of_figure? hfigure).2 _ _ _ rfl
    obtain ⟨result, hresult, hnamed⟩ := List.exists_of_findSome?_eq_some hstored
    split at hnamed
    · obtain ⟨image, himage, rfl⟩ := Option.map_eq_some_iff.mp hnamed
      exact (isChecked_of_mem_images h hresult himage).name
    · cases hnamed

/-- A carriage return in a text of a record comes from an attribute for texts. -/
theorem exists_of_return_mem (h : (ofElements settings config placed).2 = .ok d) {r : Record}
    (hr : r ∈ d.label.records) (hreturn : '\r' ∈ r.fieldText) :
    ∃ e ∈ placed, ∃ name ∈ ["text", "data", "type"], '\r' ∈ e.drawnText name := by
  obtain ⟨e, he, i, element, figure, hresolve, hfigure, hrecord⟩ :=
    exists_figure_of_mem_records h hr
  have htext := (Figure.record_texts r hrecord).1 _ hreturn
  rw [(Element.fieldText_of_figure? hfigure).1] at htext
  exact ⟨e, he, PlacedElement.return_mem_of_resolve element hresolve htext⟩

end DesignConversion

end ThermalLabel
