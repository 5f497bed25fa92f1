/-
  No element of a design is lost and none is reported twice.

  Of a design that is converted, each placed element has one record or one diagnostic, and not both
  (`design_accounted`). An image is recalled only if it is stored, it is stored only if its picture
  was loaded, and a source is asked for at most once for each image. Images, records, calls of the
  loader and the diagnostics of each pass stand in the order of the elements.
-/
import ThermalLabel.Proofs.Design.Traces

namespace ThermalLabel

/-! ## One element -/

namespace Trace.Of

variable {loading : Loading} {plans : List (Nat × ImagePlan)} {i : Nat} {e : PlacedElement}
  {t : Trace}

theorem single (h : Of loading plans i e t) :
    (∃ report, t.reports = [report] ∧ t.record = none) ∨
      ∃ record, t.reports = [] ∧ t.record = some record := by
  cases h with
  | unresolved | undrawn | unstored | misplaced => exact .inl ⟨_, rfl, rfl⟩
  | drawn | recalled => exact .inr ⟨_, rfl, rfl⟩

/-- An image has no other record than a recall of what is stored for it. -/
theorem recall_of_resolve (h : Of loading plans i e t) {x y : Binary64} {source : Quantity}
    {given : Option Text} (hresolve : e.resolve = .ok (.image x y source given)) {record : Record}
    (hrecord : t.record = some record) :
    ∃ image row column, t.image = some image ∧ record = .recallImage row column image.name := by
  cases h with
  | unresolved | undrawn | unstored | misplaced => cases hrecord
  | drawn resolve figured recorded =>
    rw [hresolve] at resolve
    cases resolve
    cases figured none
  | recalled =>
    cases hrecord
    exact ⟨_, _, _, rfl, rfl⟩

theorem recall_of_record (h : Of loading plans i e t)
    (htag : ElementKind.ofTag? e.tag = some .image) {record : Record}
    (hrecord : t.record = some record) :
    ∃ image row column, t.image = some image ∧ record = .recallImage row column image.name := by
  cases h with
  | unresolved | undrawn | unstored | misplaced => cases hrecord
  | drawn resolve figured recorded =>
    obtain ⟨x, y, source, given, rfl⟩ := PlacedElement.image_of_tag htag resolve
    cases figured none
  | recalled =>
    cases hrecord
    exact ⟨_, _, _, rfl, rfl⟩

theorem position_of_image (h : Of loading plans i e t) {image : StoredImage}
    (himage : t.image = some image) (hrecord : t.record = none) :
    ∃ report, t.reports = [report] ∧ report.kind = .position := by
  cases h with
  | unresolved | undrawn | unstored | drawn => cases himage
  | recalled => cases hrecord
  | misplaced resolve planned kept kind =>
    refine ⟨_, rfl, ?_⟩
    rw [Diagnostic.kind, Cause.kind, kind]
    rfl

theorem keeps_of_image (h : Of loading plans i e t) {image : StoredImage}
    (himage : t.image = some image) :
    ∃ x y source given number, e.resolve = .ok (.image x y source given) ∧
      (number, .load i source image.name) ∈ plans ∧ loading.Keeps number source image := by
  cases h with
  | unresolved | undrawn | unstored | drawn => cases himage
  | recalled resolve planned kept =>
    cases himage
    exact ⟨_, _, _, _, _, resolve, planned, kept⟩
  | misplaced resolve planned kept =>
    cases himage
    exact ⟨_, _, _, _, _, resolve, planned, kept⟩

theorem error_of_resolution (h : Of loading plans i e t) {report : Diagnostic}
    (hreport : t.resolution = some report) :
    ∃ reason, e.resolve = .error reason ∧ report = ⟨some i, e.tag, .fault reason⟩ := by
  cases h with
  | unresolved resolve =>
    cases hreport
    exact ⟨_, resolve, rfl⟩
  | drawn | undrawn | unstored | recalled | misplaced => cases hreport

theorem image_of_loading (h : Of loading plans i e t) {report : Diagnostic}
    (hreport : t.loading = some report) :
    ∃ x y source given, e.resolve = .ok (.image x y source given) := by
  cases h with
  | unstored resolve => exact ⟨_, _, _, _, resolve⟩
  | unresolved | drawn | undrawn | recalled | misplaced => cases hreport

theorem resolved_of_drawing (h : Of loading plans i e t) {report : Diagnostic}
    (hreport : t.drawing = some report) : ∃ element, e.resolve = .ok element := by
  cases h with
  | undrawn resolve => exact ⟨_, resolve⟩
  | misplaced resolve => exact ⟨_, resolve⟩
  | unresolved | drawn | unstored | recalled => cases hreport

end Trace.Of

/-! ## The whole design -/

namespace DesignConversion

/-- The element with an index has one record or one diagnostic. An image has a record only if it is
    stored, and then it is a recall; one that is stored and has no record does not fit its position.
    What is stored is the picture that was loaded for the element. -/
structure ElementAccounted (loading : Loading) (placed : List PlacedElement)
    (d : DesignConversion) (i : Nat) (e : PlacedElement) : Prop where
  single : (∃ report, d.reports i = [report] ∧ d.recordOf? i = none) ∨
    ∃ record, d.reports i = [] ∧ d.recordOf? i = some record
  recalled : ElementKind.ofTag? e.tag = some .image → ∀ record, d.recordOf? i = some record →
    ∃ image row column, d.imageOf? i = some image ∧ record = .recallImage row column image.name
  misplaced : ∀ image, d.imageOf? i = some image → d.recordOf? i = none →
    ∃ report, d.reports i = [report] ∧ report.kind = .position
  stored : ∀ image, d.imageOf? i = some image →
    ∃ x y source given number, e.resolve = .ok (.image x y source given) ∧
      (number, .load i source image.name) ∈ plans placed ∧ loading.Keeps number source image
  resolution : ∀ report, d.resolutionReport? i = some report →
    ∃ reason, e.resolve = .error reason ∧ report = ⟨some i, e.tag, .fault reason⟩
  images : ∀ report, d.imageReport? i = some report →
    ∃ x y source given, e.resolve = .ok (.image x y source given)
  layout : ∀ report, d.layoutReport? i = some report → ∃ element, e.resolve = .ok element

/-- All that a design writes and reports and asks for, in the order of the elements. -/
structure Accounted (loading : Loading) (config : Text) (placed : List PlacedElement)
    (asked : List Quantity) (d : DesignConversion) : Prop where
  elements : ∀ (i : Nat) e, placed[i]? = some e → d.ElementAccounted loading placed i e
  script : d.script = ['\x02', 'L', '\r'] ++ config ++ '\r' ::
    ((List.range placed.length).filterMap d.imageOf?).flatMap StoredImage.render ++
    ((List.range placed.length).filterMap d.recordOf?).flatMap Record.render ++ ['E', '\r']
  diagnostics : d.diagnostics =
    (List.range placed.length).filterMap d.resolutionReport? ++
      (List.range placed.length).filterMap d.imageReport? ++
      (List.range placed.length).filterMap d.layoutReport?
  indexed : ∀ report ∈ d.diagnostics, ∃ i < placed.length, report.index = some i
  resolutionIndexes :
    (((List.range placed.length).filterMap d.resolutionReport?).filterMap
      Diagnostic.index).Pairwise (· < ·)
  imageIndexes :
    (((List.range placed.length).filterMap d.imageReport?).filterMap
      Diagnostic.index).Pairwise (· < ·)
  layoutIndexes :
    (((List.range placed.length).filterMap d.layoutReport?).filterMap
      Diagnostic.index).Pairwise (· < ·)
  asked : ∃ calls : List (Nat × Quantity), asked = calls.map Prod.snd ∧
    calls.Pairwise (fun a b => a.1 < b.1) ∧
    ∀ call ∈ calls, ∃ e x y given,
      placed[call.1]? = some e ∧ e.resolve = .ok (.image x y call.2 given)

variable {loading : Loading} {config : Text} {placed : List PlacedElement}
  {asked : List Quantity} {d : DesignConversion}

/-- What the trace of an element says of it. -/
theorem elementAccounted_of_ran (h : Ran loading placed d) {i : Nat} {e : PlacedElement}
    (hat : placed[i]? = some e) : d.ElementAccounted loading placed i e := by
  have htraced := h.traced hat
  have hreports := h.reports_eq (List.getElem?_eq_some_iff.mp hat).1
  refine ⟨?_, fun htag _ => htraced.recall_of_record htag, fun _ himage hrecord => ?_,
    fun _ => htraced.keeps_of_image, fun _ => htraced.error_of_resolution,
    fun _ => htraced.image_of_loading, fun _ => htraced.resolved_of_drawing⟩
  · rw [hreports]
    exact htraced.single
  · rw [hreports]
    exact htraced.position_of_image himage hrecord

/-- Every diagnostic has the index of one of the elements. -/
theorem exists_index_of_mem_diagnostics (h : Ran loading placed d) {report : Diagnostic}
    (hreport : report ∈ d.diagnostics) : ∃ i < placed.length, report.index = some i := by
  rw [h.diagnostics_eq, List.mem_append, List.mem_append] at hreport
  rcases hreport with (hreport | hreport) | hreport
  · exact exists_index_of_mem (fun _ _ => index_of_resolutionReport?) hreport
  · exact exists_index_of_mem (fun _ _ => index_of_imageReport?) hreport
  · exact exists_index_of_mem (fun _ _ => index_of_layoutReport?) hreport

/-- A design accounts for every placed element. -/
theorem design_accounted (h : ofLoading loading config placed = (asked, .ok d)) :
    Accounted loading config placed asked d := by
  have hok : (ofLoading loading config placed).2 = .ok d := congrArg Prod.snd h
  have hran := ran_of_ofLoading hok
  refine ⟨fun i e => elementAccounted_of_ran hran, ?_, hran.diagnostics_eq,
    fun _ => exists_index_of_mem_diagnostics hran,
    indexes_increasing (fun _ _ => index_of_resolutionReport?) _,
    indexes_increasing (fun _ _ => index_of_imageReport?) _,
    indexes_increasing (fun _ _ => index_of_layoutReport?) _, ?_⟩
  · have hconfig : d.config = config := (ofLoading_eq_ok hok).1
    rw [← hran.images_eq, ← hran.records_eq, ← hconfig]
    rfl
  · refine ⟨calls loading placed, ?_, pairwise_calls loading placed,
      fun _ => exists_image_of_mem_calls⟩
    rw [← asked_eq hok, h]

/-- A text, an unknown element, an image, a second one of its name, one that cannot be had, one
    that is off the label and a circle of negative thickness. -/
def mixedDesign : List PlacedElement :=
  [⟨"text".toList, .ofInt 1, .ofInt 2, .missing, .missing, [("text".toList, .text "hi".toList)]⟩,
    ⟨"blob".toList, .ofInt 1, .ofInt 2, .missing, .missing, []⟩,
    ⟨"image".toList, .ofInt 1, .ofInt 2, .missing, .missing,
      [("src".toList, .text ['a']), ("image-name".toList, .text ['A'])]⟩,
    ⟨"image".toList, .ofInt 1, .ofInt 2, .missing, .missing,
      [("src".toList, .text ['a']), ("image-name".toList, .text ['A'])]⟩,
    ⟨"image".toList, .ofInt 1, .ofInt 2, .missing, .missing, [("src".toList, .text ['b'])]⟩,
    ⟨"image".toList, .ofInt 20000, .ofInt 2, .missing, .missing, [("src".toList, .text ['c'])]⟩,
    ⟨"circle".toList, .ofInt 1, .ofInt 2, .ofInt 9, .missing,
      [("thickness".toList, .text ['-', '1'])]⟩]

/-- A course of loading in which a black dot is at every source but one. -/
def dotLoading : Loading where
  loader _ source :=
    if source = ['b'] then .error (.refused .unavailable "no image")
    else .ok (.ofImage ⟨1, 1, [.gray 0], rfl⟩)
  cancelledBefore _ := false
  cancelledAfter _ := false
  threshold := Threshold.default

theorem design_accounted_of_mixedDesign :
    ∃ d, ofLoading dotLoading Label.defaultConfig mixedDesign =
        ([.text ['a'], .text ['b'], .text ['c']], .ok d) ∧
      d.diagnostics.map Diagnostic.index = [some 1, some 3, some 4, some 5, some 6] ∧
      d.label.images.map StoredImage.name = [['A'], "IMG002".toList] ∧
      Accounted dotLoading Label.defaultConfig mixedDesign
        [.text ['a'], .text ['b'], .text ['c']] d := by
  have hasked : (ofLoading dotLoading Label.defaultConfig mixedDesign).1 =
      [.text ['a'], .text ['b'], .text ['c']] := by decide +kernel
  have hviews : (ofLoading dotLoading Label.defaultConfig mixedDesign).2.map
      (fun d => (d.diagnostics.map Diagnostic.index, d.label.images.map StoredImage.name)) =
      .ok ([some 1, some 3, some 4, some 5, some 6], [['A'], "IMG002".toList]) := by
    decide +kernel
  obtain ⟨d, hd, hviews⟩ := map_eq_ok_iff.mp hviews
  obtain ⟨hindexes, hnames⟩ := Prod.mk.inj hviews
  have h : ofLoading dotLoading Label.defaultConfig mixedDesign =
      ([.text ['a'], .text ['b'], .text ['c']], .ok d) := Prod.ext hasked hd
  exact ⟨d, h, hindexes, hnames, design_accounted h⟩

end DesignConversion

end ThermalLabel
