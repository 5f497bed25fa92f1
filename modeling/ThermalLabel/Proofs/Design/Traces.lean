/-
  A design element by element.

  What a design has for the placed element with an index is its trace: a report of one of the three
  passes, an image, a record. The images, the records and the diagnostics of a design are those of
  the traces, in the order of the elements (`images_eq`, `records_eq`, `diagnostics_eq`), and an
  element has one of six traces (`traced`).
-/
import ThermalLabel.Proofs.Design.Drawing
import ThermalLabel.Proofs.Design.Resolving
import ThermalLabel.Proofs.Fields

namespace ThermalLabel

/-! ## Elements and images -/

theorem Element.image_or_figure (e : Element) :
    (∃ x y source given, e = .image x y source given) ∨
      ∃ figure, ∀ stored, e.figure? stored = some figure := by
  cases e with
  | image x y source given => exact .inl ⟨x, y, source, given, rfl⟩
  | text | barcode | box | circle | line => exact .inr ⟨_, fun _ => rfl⟩

/-- Doubles are pixels, so that a recall that is refused does not fit its position. -/
theorem Figure.kind_of_recallImage {x y : Binary64} {name : Text} {reason : Fault}
    (h : (recallImage (.ofReal x) (.ofReal y) name).record = .error reason) :
    reason.diagnosticKind? = some .position := by
  rcases bind_eq_error_iff.mp h with h | ⟨_, -, h⟩
  · exact Position.ofPixels_eq_error h
  · rcases bind_eq_error_iff.mp h with h | ⟨_, -, h⟩
    · exact Position.ofPixels_eq_error h
    · cases h

namespace Loading

variable {l : Loading}

/-- The picture of an image was loaded and is its data. -/
structure Keeps (l : Loading) (image : Nat) (source : Quantity) (stored : StoredImage) : Prop where
  before : l.cancelledBefore image = false
  after : l.cancelledAfter image = false
  picture : ∃ picture, l.find image source = .ok picture ∧
    picture.encode l.threshold = .ok stored.data

theorem result_names {image : Nat} {plan : ImagePlan} {result : ImageResult}
    (h : l.result (image, plan) = .ok result) :
    result.index = plan.index ∧ result.name = plan.name := by
  cases plan with
  | taken i name =>
    cases h
    exact ⟨rfl, rfl⟩
  | load i source name =>
    obtain ⟨outcome, -, h⟩ := bind_eq_ok_iff.mp h
    cases h
    exact ⟨rfl, rfl⟩

/-- Only an image that is to be loaded is stored. -/
theorem keeps_of_result {image : Nat} {plan : ImagePlan} {i : Nat} {name : Text}
    {stored : StoredImage} (h : l.result (image, plan) = .ok ⟨i, name, .stored stored⟩) :
    ∃ source, plan = .load i source name ∧ stored.name = name ∧ l.Keeps image source stored := by
  cases plan with
  | taken i name => cases h
  | load i source name =>
    obtain ⟨outcome, hacquire, h⟩ := bind_eq_ok_iff.mp h
    cases h
    cases acquired_of_acquire hacquire with
    | stored before found after encoded made =>
      exact ⟨source, rfl, rfl, before, after, _, found, encoded⟩

end Loading

/-! ## Traces -/

/-- What a design has for one of its elements: the reports of the three passes, the image and the
    record. -/
structure Trace where
  resolution : Option Diagnostic
  loading : Option Diagnostic
  drawing : Option Diagnostic
  image : Option StoredImage
  record : Option Record

namespace Trace

/-- The reports of the passes, one after the other. -/
def reports (t : Trace) : List Diagnostic :=
  t.resolution.toList ++ t.loading.toList ++ t.drawing.toList

/-- All that an element can come to: it is not resolved; it is drawn or reported, and no image; or
    it is an image that is not stored, or one that is stored and recalled, or one that is stored and
    does not fit its position. -/
inductive Of (loading : Loading) (plans : List (Nat × ImagePlan)) (i : Nat) (e : PlacedElement) :
    Trace → Prop
  | unresolved {reason : Fault} (resolve : e.resolve = .error reason) :
    Of loading plans i e ⟨some ⟨some i, e.tag, .fault reason⟩, none, none, none, none⟩
  | drawn {element : Element} {figure : Figure} {record : Record}
    (resolve : e.resolve = .ok element) (figured : ∀ stored, element.figure? stored = some figure)
    (recorded : figure.record = .ok record) :
    Of loading plans i e ⟨none, none, none, none, some record⟩
  | undrawn {element : Element} {figure : Figure} {reason : Fault}
    (resolve : e.resolve = .ok element) (figured : ∀ stored, element.figure? stored = some figure)
    (refused : figure.record = .error reason) :
    Of loading plans i e ⟨none, none, some ⟨some i, element.typeName, .fault reason⟩, none, none⟩
  | unstored {x y : Binary64} {source : Quantity} {given : Option Text} {number : Nat}
    {plan : ImagePlan} {name : Text} {cause : Cause}
    (resolve : e.resolve = .ok (.image x y source given)) (planned : (number, plan) ∈ plans)
    (result : loading.result (number, plan) = .ok ⟨i, name, .skipped cause⟩) :
    Of loading plans i e ⟨none, some ⟨some i, name, cause⟩, none, none, none⟩
  | recalled {x y : Binary64} {source : Quantity} {given : Option Text} {number : Nat}
    {image : StoredImage} {row column : Position}
    (resolve : e.resolve = .ok (.image x y source given))
    (planned : (number, .load i source image.name) ∈ plans)
    (kept : loading.Keeps number source image) :
    Of loading plans i e
      ⟨none, none, none, some image, some (.recallImage row column image.name)⟩
  | misplaced {x y : Binary64} {source : Quantity} {given : Option Text} {number : Nat}
    {image : StoredImage} {reason : Fault}
    (resolve : e.resolve = .ok (.image x y source given))
    (planned : (number, .load i source image.name) ∈ plans)
    (kept : loading.Keeps number source image) (kind : reason.diagnosticKind? = some .position) :
    Of loading plans i e
      ⟨none, none, some ⟨some i, "ImageElement".toList, .fault reason⟩, some image, none⟩

end Trace

namespace DesignConversion

/-- The report of resolving the element with an index. -/
def resolutionReport? (d : DesignConversion) (i : Nat) : Option Diagnostic :=
  d.elements[i]?.bind (resolutionDiagnostic? i)

/-- What became of the image of the element with an index. -/
def resultAt? (d : DesignConversion) (i : Nat) : Option ImageResult :=
  d.images.find? fun r => r.index = i

/-- The report of loading the image of the element with an index. -/
def imageReport? (d : DesignConversion) (i : Nat) : Option Diagnostic :=
  (d.resultAt? i).bind ImageResult.diagnostic?

/-- The image that is stored for the element with an index. -/
def imageOf? (d : DesignConversion) (i : Nat) : Option StoredImage :=
  (d.resultAt? i).bind ImageResult.image?

/-- What became of the resolved element with an index. -/
def layoutAt? (d : DesignConversion) (i : Nat) : Option (Nat × Element × ElementOutcome) :=
  d.layout.find? fun l => l.1 = i

/-- The report of drawing the element with an index. -/
def layoutReport? (d : DesignConversion) (i : Nat) : Option Diagnostic :=
  (d.layoutAt? i).bind layoutDiagnostic?

/-- The record of the element with an index. -/
def recordOf? (d : DesignConversion) (i : Nat) : Option Record :=
  (d.layoutAt? i).bind fun l => l.2.2.record?

/-- The trace of the element with an index. -/
def traceAt (d : DesignConversion) (i : Nat) : Trace :=
  ⟨d.resolutionReport? i, d.imageReport? i, d.layoutReport? i, d.imageOf? i, d.recordOf? i⟩

/-- The diagnostics of the element with an index. -/
def reports (d : DesignConversion) (i : Nat) : List Diagnostic :=
  d.diagnostics.filter fun report => report.index = some i

/-- The design is what the three passes make of the placed elements. -/
structure Ran (loading : Loading) (placed : List PlacedElement) (d : DesignConversion) : Prop where
  elements : placed.mapM (fun e => do return (e, ← resolution e)) = .ok d.elements
  images : (plans placed).mapM loading.result = .ok d.images
  layout : draw d.images (PlacedElement.resolveAll placed) = .ok d.layout

variable {loading : Loading} {config : Text} {placed : List PlacedElement} {d : DesignConversion}

theorem ran_of_ofLoading (h : (ofLoading loading config placed).2 = .ok d) :
    Ran loading placed d := by
  obtain ⟨-, helements, himages, hlayout⟩ := ofLoading_eq_ok h
  rw [resolved_eq helements] at himages hlayout
  refine ⟨helements, ?_, hlayout⟩
  rw [plans, ← Loading.acquireAll_results, himages]

/-- The sources that were asked for are those of the calls. -/
theorem asked_eq (h : (ofLoading loading config placed).2 = .ok d) :
    (ofLoading loading config placed).1 = (calls loading placed).map Prod.snd := by
  obtain ⟨-, helements, himages, -⟩ := ofLoading_eq_ok h
  rw [resolved_eq helements] at himages
  have hasked := Loading.acquireAll_asked (congrArg Prod.snd himages)
  rw [himages] at hasked
  exact hasked

namespace Ran

/-! ### The first pass -/

theorem resolutionReport?_eq (h : Ran loading placed d) {i : Nat} {e : PlacedElement}
    (hat : placed[i]? = some e) :
    d.resolutionReport? i = match e.resolve with
      | .ok _ => none
      | .error reason => some ⟨some i, e.tag, .fault reason⟩ := by
  obtain ⟨result, hresult, hindexed⟩ := (elements_getElem? h.elements).2 i e hat
  rw [resolutionReport?, hindexed]
  rcases resolution_eq_ok hresult with ⟨element, hresolve, rfl⟩ | ⟨reason, hresolve, rfl⟩
  · rw [hresolve]
    rfl
  · rw [hresolve]
    rfl

/-! ### The second pass -/

theorem map_index_images (h : Ran loading placed d) :
    d.images.map ImageResult.index =
      (PlacedElement.images placed).map ImageRequest.index := by
  rw [← map_index_plans]
  exact map_eq_of_mapM (fun _ _ hresult => (Loading.result_names hresult).1) h.images

theorem pairwise_images (h : Ran loading placed d) :
    d.images.Pairwise fun a b => a.index < b.index := by
  have hrequests := PlacedElement.pairwise_images placed
  rw [← List.pairwise_map, ← h.map_index_images, List.pairwise_map] at hrequests
  exact hrequests

/-- The result of an image is that of what is planned for it. -/
theorem resultAt?_of_image (h : Ran loading placed d) {p : Nat} {r : ImageRequest}
    (hat : (PlacedElement.images placed)[p]? = some r) :
    ∃ number result, (number, planOf placed p r) ∈ plans placed ∧
      loading.result (number, planOf placed p r) = .ok result ∧
      d.resultAt? r.index = some result := by
  have hplanned := plans_getElem? placed p
  rw [hat, Option.map_some] at hplanned
  obtain ⟨⟨number, plan⟩, hnumbered, rfl⟩ := Option.map_eq_some_iff.mp hplanned
  obtain ⟨result, hresult, hindexed⟩ := (mapM_getElem? h.images).2 p _ hnumbered
  refine ⟨number, result, List.mem_of_getElem? hnumbered, hresult, ?_⟩
  refine (find?_key_eq_some_iff h.pairwise_images).mpr ⟨List.mem_of_getElem? hindexed, ?_⟩
  rw [(Loading.result_names hresult).1, index_planOf]

/-- Only an element that is resolved to an image has a result. -/
theorem resultAt?_eq_none (h : Ran loading placed d) {i : Nat} {e : PlacedElement}
    (hat : placed[i]? = some e)
    (hno : ∀ x y source given, e.resolve ≠ .ok (.image x y source given)) :
    d.resultAt? i = none := by
  refine List.find?_eq_none.mpr fun result hresult hindex => ?_
  have hindexes := List.mem_map_of_mem (f := ImageResult.index) hresult
  rw [h.map_index_images, of_decide_eq_true hindex] at hindexes
  obtain ⟨r, hr, rfl⟩ := List.mem_map.mp hindexes
  obtain ⟨e', x, y, hat', hresolve⟩ := PlacedElement.mem_images_iff.mp hr
  rw [hat, Option.some.injEq] at hat'
  subst hat'
  exact hno _ _ _ _ hresolve

theorem storedName?_eq (h : Ran loading placed d) (i : Nat) :
    storedName? d.images i = (d.imageOf? i).map StoredImage.name := by
  rw [storedName?, findSome?_key h.pairwise_images, imageOf?, Option.map_bind]
  rfl

/-! ### The third pass -/

theorem map_layout (h : Ran loading placed d) :
    d.layout.map (fun l => (l.1, l.2.1)) = PlacedElement.resolveAll placed := by
  rw [← List.map_id (PlacedElement.resolveAll placed)]
  refine map_eq_of_mapM (fun e l hl => ?_) h.layout
  obtain ⟨result, -, hl⟩ := bind_eq_ok_iff.mp hl
  cases hl
  rfl

theorem pairwise_layout (h : Ran loading placed d) :
    d.layout.Pairwise fun a b => a.1 < b.1 := by
  have hplaced := PlacedElement.pairwise_resolveAll placed
  rw [← h.map_layout, List.pairwise_map] at hplaced
  exact hplaced

/-- A resolved element is drawn with the name of the image that is stored for it. -/
theorem layoutAt?_of_resolve (h : Ran loading placed d) {i : Nat} {e : PlacedElement}
    {element : Element} (hat : placed[i]? = some e) (hresolve : e.resolve = .ok element) :
    ∃ result, element.outcome ((d.imageOf? i).map StoredImage.name) = .ok result ∧
      d.layoutAt? i = some (i, element, result) := by
  have hmem := PlacedElement.mem_resolveAll_iff.mpr ⟨e, hat, hresolve⟩
  obtain ⟨p, hp⟩ := List.mem_iff_getElem?.mp hmem
  obtain ⟨item, hitem, hindexed⟩ := (mapM_getElem? h.layout).2 p _ hp
  obtain ⟨result, hresult, hitem⟩ := bind_eq_ok_iff.mp hitem
  cases hitem
  rw [h.storedName?_eq] at hresult
  exact ⟨result, hresult,
    (find?_key_eq_some_iff h.pairwise_layout).mpr ⟨List.mem_of_getElem? hindexed, rfl⟩⟩

theorem layoutAt?_eq_none (h : Ran loading placed d) {i : Nat} {e : PlacedElement} {reason : Fault}
    (hat : placed[i]? = some e) (hresolve : e.resolve = .error reason) : d.layoutAt? i = none := by
  refine List.find?_eq_none.mpr fun l hl hindex => ?_
  have hmem := List.mem_map_of_mem (f := fun l => (l.1, l.2.1)) hl
  rw [h.map_layout] at hmem
  obtain ⟨e', hat', hresolve'⟩ := PlacedElement.mem_resolveAll_iff.mp hmem
  rw [of_decide_eq_true hindex, hat, Option.some.injEq] at hat'
  rw [← hat', hresolve] at hresolve'
  cases hresolve'

/-! ### In the order of the elements -/

theorem index_lt_of_mem_images (h : Ran loading placed d) {r : ImageResult} (hr : r ∈ d.images) :
    r.index < placed.length := by
  have hindex := List.mem_map_of_mem (f := ImageResult.index) hr
  rw [h.map_index_images] at hindex
  obtain ⟨request, hrequest, hindex⟩ := List.mem_map.mp hindex
  obtain ⟨_, _, _, hat, -⟩ := PlacedElement.mem_images_iff.mp hrequest
  rw [← hindex]
  exact (List.getElem?_eq_some_iff.mp hat).1

theorem index_lt_of_mem_layout (h : Ran loading placed d) {l : Nat × Element × ElementOutcome}
    (hl : l ∈ d.layout) : l.1 < placed.length := by
  have hmem := List.mem_map_of_mem (f := fun l => (l.1, l.2.1)) hl
  rw [h.map_layout] at hmem
  exact PlacedElement.lt_length_of_mem_resolveAll hmem

theorem images_eq (h : Ran loading placed d) :
    d.label.images = (List.range placed.length).filterMap d.imageOf? :=
  (filterMap_range_find? h.pairwise_images (fun _ => h.index_lt_of_mem_images) _).symm

theorem records_eq (h : Ran loading placed d) :
    d.label.records = (List.range placed.length).filterMap d.recordOf? :=
  (filterMap_range_find? h.pairwise_layout (fun _ => h.index_lt_of_mem_layout) _).symm

theorem diagnostics_eq (h : Ran loading placed d) :
    d.diagnostics =
      (List.range placed.length).filterMap d.resolutionReport? ++
        (List.range placed.length).filterMap d.imageReport? ++
        (List.range placed.length).filterMap d.layoutReport? := by
  have hresolution := filterMap_range_bind d.elements resolutionDiagnostic?
  rw [(elements_getElem? h.elements).1] at hresolution
  have himages := filterMap_range_find? h.pairwise_images (fun _ => h.index_lt_of_mem_images)
    ImageResult.diagnostic?
  have hlayout := filterMap_range_find? h.pairwise_layout (fun _ => h.index_lt_of_mem_layout)
    layoutDiagnostic?
  rw [diagnostics, ← hresolution, ← himages, ← hlayout]
  rfl

end Ran

/-! ### Reports -/

theorem index_of_resolutionReport? {i : Nat} {report : Diagnostic}
    (h : d.resolutionReport? i = some report) : report.index = some i := by
  obtain ⟨⟨e, result⟩, -, h⟩ := Option.bind_eq_some_iff.mp h
  cases result with
  | ok element => cases h
  | error cause =>
    cases h
    rfl

theorem index_of_resultAt? {i : Nat} {r : ImageResult} (h : d.resultAt? i = some r) :
    r.index = i := by
  unfold resultAt? at h
  have hfound := List.find?_some h
  exact of_decide_eq_true hfound

theorem index_of_layoutAt? {i : Nat} {l : Nat × Element × ElementOutcome}
    (h : d.layoutAt? i = some l) : l.1 = i := by
  unfold layoutAt? at h
  have hfound := List.find?_some h
  exact of_decide_eq_true hfound

theorem index_of_imageReport? {i : Nat} {report : Diagnostic}
    (h : d.imageReport? i = some report) : report.index = some i := by
  obtain ⟨⟨index, name, outcome⟩, hfound, hreport⟩ := Option.bind_eq_some_iff.mp h
  obtain rfl := index_of_resultAt? hfound
  cases outcome with
  | stored image => cases hreport
  | skipped cause =>
    cases hreport
    rfl

theorem index_of_layoutReport? {i : Nat} {report : Diagnostic}
    (h : d.layoutReport? i = some report) : report.index = some i := by
  obtain ⟨⟨index, element, outcome⟩, hfound, hreport⟩ := Option.bind_eq_some_iff.mp h
  obtain rfl := index_of_layoutAt? hfound
  cases outcome with
  | drawn | silent => cases hreport
  | skipped cause =>
    cases hreport
    rfl

/-- The diagnostics of an element are the reports of its trace. -/
theorem Ran.reports_eq (h : Ran loading placed d) {i : Nat} (hi : i < placed.length) :
    d.reports i = (d.traceAt i).reports := by
  rw [reports, h.diagnostics_eq, List.filter_append, List.filter_append,
    filter_index (fun _ _ => index_of_resolutionReport?) hi,
    filter_index (fun _ _ => index_of_imageReport?) hi,
    filter_index (fun _ _ => index_of_layoutReport?) hi]
  rfl

/-! ### One element -/

namespace Ran

theorem traced_of_error (h : Ran loading placed d) {i : Nat} {e : PlacedElement} {reason : Fault}
    (hat : placed[i]? = some e) (hresolve : e.resolve = .error reason) :
    Trace.Of loading (plans placed) i e (d.traceAt i) := by
  have hreport := h.resolutionReport?_eq hat
  have hlayout := h.layoutAt?_eq_none hat hresolve
  have hresult := h.resultAt?_eq_none hat fun x y source given himage => by
    rw [hresolve] at himage
    cases himage
  rw [hresolve] at hreport
  rw [traceAt, hreport, imageReport?, imageOf?, hresult, layoutReport?, recordOf?, hlayout]
  exact .unresolved hresolve

/-- An element that is no image is drawn or reported. -/
theorem traced_of_figure (h : Ran loading placed d) {i : Nat} {e : PlacedElement}
    {element : Element} {figure : Figure} (hat : placed[i]? = some e)
    (hresolve : e.resolve = .ok element)
    (hfigure : ∀ stored, element.figure? stored = some figure) :
    Trace.Of loading (plans placed) i e (d.traceAt i) := by
  have hreport := h.resolutionReport?_eq hat
  obtain ⟨result, houtcome, hlayout⟩ := h.layoutAt?_of_resolve hat hresolve
  have hresult := h.resultAt?_eq_none hat fun x y source given himage => by
    rw [hresolve] at himage
    cases himage
    cases hfigure none
  rw [hresolve] at hreport
  rw [traceAt, hreport, imageReport?, imageOf?, hresult, layoutReport?, recordOf?, hlayout]
  rcases Element.outcome_cases houtcome with ⟨hnone, -⟩ | ⟨found, hfound, hcases⟩
  · rw [hfigure] at hnone
    cases hnone
  · rw [hfigure, Option.some.injEq] at hfound
    subst hfound
    rcases hcases with ⟨record, hrecord, rfl⟩ | ⟨reason, hrefused, -, rfl⟩
    · exact .drawn hresolve hfigure hrecord
    · exact .undrawn hresolve hfigure hrefused

/-- An image that is not stored is silent in the third pass, and one that is stored is recalled
    where it fits. -/
theorem traced_of_image (h : Ran loading placed d) {i : Nat} {e : PlacedElement} {x y : Binary64}
    {source : Quantity} {given : Option Text} (hat : placed[i]? = some e)
    (hresolve : e.resolve = .ok (.image x y source given)) :
    Trace.Of loading (plans placed) i e (d.traceAt i) := by
  have hreport := h.resolutionReport?_eq hat
  obtain ⟨drawn, houtcome, hlayout⟩ := h.layoutAt?_of_resolve hat hresolve
  rw [hresolve] at hreport
  have hrequest : ⟨i, source, given⟩ ∈ PlacedElement.images placed :=
    PlacedElement.mem_images_iff.mpr ⟨e, x, y, hat, hresolve⟩
  obtain ⟨p, hp⟩ := List.mem_iff_getElem?.mp hrequest
  obtain ⟨number, result, hplanned, hresult, hfound⟩ := h.resultAt?_of_image hp
  obtain ⟨hindex, -⟩ := Loading.result_names hresult
  rw [index_planOf] at hindex
  obtain ⟨index, name, outcome⟩ := result
  cases hindex
  rw [traceAt, hreport, imageReport?, layoutReport?, recordOf?, hlayout]
  rw [imageOf?, hfound] at houtcome ⊢
  cases outcome with
  | skipped cause =>
    rcases Element.outcome_cases houtcome with ⟨-, rfl⟩ | ⟨figure, hfigure, -⟩
    · exact .unstored hresolve hplanned hresult
    · cases hfigure
  | stored image =>
    replace houtcome : (Element.image x y source given).outcome (some image.name) = .ok drawn :=
      houtcome
    obtain ⟨planned, hload, hname, hkept⟩ := Loading.keeps_of_result hresult
    obtain rfl := ImagePlan.source_planned hload
    rw [hload, ← hname] at hplanned
    rcases Element.outcome_cases houtcome with ⟨hnone, -⟩ | ⟨figure, hfigure, hcases⟩
    · cases hnone
    · cases hfigure
      rcases hcases with ⟨record, hrecord, rfl⟩ | ⟨reason, hrefused, -, rfl⟩
      · obtain ⟨row, -, hrecord⟩ := bind_eq_ok_iff.mp hrecord
        obtain ⟨column, -, hrecord⟩ := bind_eq_ok_iff.mp hrecord
        cases hrecord
        exact .recalled hresolve hplanned hkept
      · exact .misplaced hresolve hplanned hkept (Figure.kind_of_recallImage hrefused)

theorem traced (h : Ran loading placed d) {i : Nat} {e : PlacedElement}
    (hat : placed[i]? = some e) : Trace.Of loading (plans placed) i e (d.traceAt i) := by
  cases hresolve : e.resolve with
  | error reason => exact h.traced_of_error hat hresolve
  | ok element =>
    rcases element.image_or_figure with ⟨x, y, source, given, rfl⟩ | ⟨figure, hfigure⟩
    · exact h.traced_of_image hat hresolve
    · exact h.traced_of_figure hat hresolve hfigure

end Ran

end DesignConversion

end ThermalLabel
