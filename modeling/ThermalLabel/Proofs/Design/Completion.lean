/-
  When a design ends with a label.

  Where the attributes of its elements are texts, every source has an image or is refused, and the
  threshold is a whole number on the scale, a design ends with a label unless one of its elements
  overflows (`design_completes_iff`). Such an element ends the conversion before any image is asked
  for; every other problem is reported.
-/
import ThermalLabel.Proofs.Design.Accounting
import ThermalLabel.Proofs.Design.Overflow
import ThermalLabel.Proofs.Raster.Hexadecimal

namespace ThermalLabel

/-! ## Images -/

namespace Loading

variable {l : Loading}

/-- Every source has an image or is refused, whenever it is asked for, and the threshold is a whole
    number on the scale. -/
structure IsRegular (l : Loading) : Prop where
  loader : ∀ image source, (∃ picture, l.loader image source = .ok (.ofImage picture)) ∨
    ∃ obstacle message, l.loader image source = .error (.refused obstacle message)
  threshold : ∃ n : Int, l.threshold = .ofInt n ∧ 0 ≤ n ∧ n ≤ 256

theorem exists_encode_ok (h : l.IsRegular) (image : Image) :
    ∃ data, (Picture.ofImage image).encode l.threshold = .ok data := by
  obtain ⟨n, hn, hscale⟩ := h.threshold
  have hread : Threshold.read l.threshold = .ok ⟨.integer (3 * n)⟩ := by
    rw [hn]
    exact if_pos hscale
  refine ⟨image.hexadecimal ⟨.integer (3 * n)⟩, ?_⟩
  unfold Picture.encode Picture.thresholded
  rw [hread]
  rfl

theorem exists_acquire_ok (h : l.IsRegular) (image : Nat) (source : Text) {name : Text}
    (hname : name ≠ [] ∧ name.all Text.isWord) :
    ∃ outcome, l.acquire image (.text source) name = .ok outcome := by
  unfold acquire
  split
  · exact ⟨_, rfl⟩
  · have hfind : l.find image (.text source) = (l.loader image source).mapError .loading := rfl
    rcases h.loader image source with ⟨picture, hanswer⟩ | ⟨obstacle, message, hanswer⟩
    · rw [hfind, hanswer]
      dsimp only [Except.mapError]
      split
      · exact ⟨_, rfl⟩
      · obtain ⟨data, hencode⟩ := exists_encode_ok h picture
        have hhexadecimal := Picture.isHexadecimal_of_encode hencode
        refine ⟨.stored ⟨name, data⟩, ?_⟩
        unfold store StoredImage.make
        rw [hencode]
        dsimp only
        rw [if_neg (by simp [hname]), if_neg (by simp [hhexadecimal])]
        rfl
    · rw [hfind, hanswer]
      exact ⟨_, rfl⟩

end Loading

namespace DesignConversion

variable {placed : List PlacedElement} {number i : Nat} {source : Quantity} {name : Text}

/-- An image is planned under the name that it is given or under a generated one, and both have word
    characters only. -/
theorem isWord_of_mem_plans (h : (number, .load i source name) ∈ plans placed) :
    name ≠ [] ∧ name.all Text.isWord := by
  obtain ⟨p, r, hr, hplan⟩ := exists_image_of_mem_plans h
  obtain ⟨e, x, y, -, hresolve⟩ := PlacedElement.mem_images_iff.mp (List.mem_of_getElem? hr)
  have hname : (planOf placed p r).loadName? = some name := by
    rw [← hplan]
    rfl
  rcases ImagePlan.loadName?_eq_some hname with ⟨hown, -⟩ | ⟨-, rfl⟩
  · have hgiven := (PlacedElement.read_of_image hresolve).2
    rw [hown] at hgiven
    exact PlacedElement.isWord_of_imageName hgiven
  · exact ⟨List.cons_ne_nil _ _, ImagePlan.isWord_generatedName _⟩

theorem text_of_mem_plans (htexts : ∀ e ∈ placed, e.HasTexts)
    (h : (number, .load i source name) ∈ plans placed) : ∃ t, source = .text t := by
  obtain ⟨e, x, y, given, hat, hresolve⟩ := resolve_of_mem_plans h
  exact PlacedElement.text_of_source (htexts e (List.mem_of_getElem? hat))
    (PlacedElement.read_of_image hresolve).1

end DesignConversion

/-! ## Drawing -/

section Drawing

variable {reason : Fault}

theorem Position.not_ends_read_ofReal {x : Binary64} : ¬ Ends (Position.read (.ofReal x)) reason :=
  not_ends_read (.inr ⟨x, rfl⟩)

theorem Position.not_ends_edge_ofReal {x width : Binary64} :
    ¬ Ends (Position.edge (.ofReal x) (.ofReal width)) reason :=
  not_ends_read (.inr ⟨x.add width, rfl⟩)

theorem Size.not_ends_read_ofReal {x : Binary64} : ¬ Ends (Size.read (.ofReal x)) reason := by
  rintro ⟨h, hkind⟩
  rw [Size.ofPixels_eq_error h] at hkind
  cases hkind

/-- A figure whose coordinates and sizes are doubles does not end the conversion. -/
theorem Element.not_ends_record {stored : Option Text} {e : Element} {figure : Figure}
    (h : e.figure? stored = some figure) : ¬ Ends figure.record reason := by
  cases e with
  | text | barcode =>
    cases h
    simp only [Figure.record, ends_bind_iff, Position.not_ends_read_ofReal, pure, Except.pure,
      not_ends_ok, and_false, exists_false, or_false, not_false_eq_true]
  | box =>
    cases h
    rw [Figure.record_box]
    simp only [Figure.cornered, ends_bind_iff, Position.not_ends_read_ofReal,
      Position.not_ends_edge_ofReal, Size.not_ends_read_ofReal, pure, Except.pure, not_ends_ok,
      and_false, exists_false, or_false, not_false_eq_true]
  | line =>
    cases h
    rw [Figure.record_line]
    simp only [Figure.cornered, ends_bind_iff, Position.not_ends_read_ofReal,
      Position.not_ends_edge_ofReal, Size.not_ends_read_ofReal, pure, Except.pure, not_ends_ok,
      and_false, exists_false, or_false, not_false_eq_true]
  | circle =>
    cases h
    simp only [Figure.record, ends_bind_iff, Position.not_ends_read_ofReal,
      Size.not_ends_read_ofReal, pure, Except.pure, not_ends_ok, and_false, exists_false, or_false,
      not_false_eq_true]
  | image x y source given =>
    obtain ⟨name, -, rfl⟩ := Option.map_eq_some_iff.mp h
    simp only [Figure.record, ends_bind_iff, Position.not_ends_read_ofReal, pure, Except.pure,
      not_ends_ok, and_false, exists_false, or_false, not_false_eq_true]

theorem Element.exists_outcome_ok (stored : Option Text) (e : Element) :
    ∃ result, e.outcome stored = .ok result := by
  unfold outcome
  cases hfigure : e.figure? stored with
  | none => exact ⟨_, rfl⟩
  | some figure =>
    dsimp only
    cases hrecord : figure.record with
    | ok record => exact ⟨_, rfl⟩
    | error reason =>
      have hkind : reason.diagnosticKind?.isSome :=
        Option.isSome_iff_ne_none.mpr fun h => Element.not_ends_record hfigure ⟨hrecord, h⟩
      refine ⟨.skipped (.fault reason), ?_⟩
      dsimp only
      rw [Cause.ofFault_eq_ok_iff.mpr ⟨hkind, rfl⟩]
      rfl

end Drawing

/-! ## Designs -/

namespace DesignConversion

variable {loading : Loading} {config : Text} {placed : List PlacedElement} {reason : Fault}

theorem resolution_eq_error_iff {e : PlacedElement} :
    resolution e = .error reason ↔ Ends e.resolve reason := by
  constructor
  · intro h
    unfold resolution at h
    split at h
    · cases h
    · next found hresolve =>
      replace h := map_eq_error_iff.mp h
      unfold Cause.ofFault at h
      split at h
      · cases h
      · next hkind =>
        cases h
        exact ⟨hresolve, Option.not_isSome_iff_eq_none.mp hkind⟩
  · rintro ⟨hresolve, hkind⟩
    unfold resolution
    rw [hresolve]
    dsimp only
    rw [Cause.ofFault, if_neg (by simp [hkind])]
    rfl

theorem exists_resolution_ok_iff {e : PlacedElement} (htexts : e.HasTexts) :
    (∃ result, resolution e = .ok result) ↔ ¬ e.Overflows := by
  rw [exists_ok_iff]
  simp only [ne_eq, resolution_eq_error_iff, PlacedElement.ends_resolve_iff htexts]
  exact ⟨fun h overflow => h _ ⟨overflow, rfl⟩, fun h _ overflow => h overflow.1⟩

/-- The first pass goes through exactly if no element overflows. -/
theorem exists_elements_ok_iff (htexts : ∀ e ∈ placed, e.HasTexts) :
    (∃ elements, placed.mapM (fun e => do return (e, ← resolution e)) =
        (.ok elements : Except Fault (List (PlacedElement × Except Cause Element)))) ↔
      ∀ e ∈ placed, ¬ e.Overflows := by
  rw [exists_mapM_ok_iff]
  refine forall_congr' fun e => forall_congr' fun he => ?_
  rw [← exists_resolution_ok_iff (htexts e he)]
  constructor
  · rintro ⟨_, h⟩
    obtain ⟨result, hresult, -⟩ := bind_eq_ok_iff.mp h
    exact ⟨result, hresult⟩
  · rintro ⟨result, hresult⟩
    exact ⟨(e, result), bind_eq_ok_iff.mpr ⟨result, hresult, rfl⟩⟩

/-- The second pass goes through whatever becomes of the images. -/
theorem exists_images_ok (htexts : ∀ e ∈ placed, e.HasTexts) (hregular : loading.IsRegular) :
    ∃ images, (plans placed).mapM loading.result = .ok images := by
  rw [exists_mapM_ok_iff]
  rintro ⟨number, plan⟩ hplan
  cases plan with
  | taken i name => exact ⟨_, rfl⟩
  | load i source name =>
    obtain ⟨t, rfl⟩ := text_of_mem_plans htexts hplan
    have hname := isWord_of_mem_plans hplan
    obtain ⟨outcome, hacquire⟩ := Loading.exists_acquire_ok hregular number t hname
    exact ⟨_, bind_eq_ok_iff.mpr ⟨outcome, hacquire, rfl⟩⟩

/-- The third pass goes through. -/
theorem exists_layout_ok (images : List ImageResult) (elements : List (Nat × Element)) :
    ∃ layout, draw images elements = .ok layout := by
  unfold draw
  rw [exists_mapM_ok_iff]
  rintro ⟨i, e⟩ -
  obtain ⟨result, hresult⟩ := e.exists_outcome_ok (storedName? images i)
  exact ⟨_, bind_eq_ok_iff.mpr ⟨result, hresult, rfl⟩⟩

/-- A design whose elements are resolved and whose images have results ends with a label. -/
theorem exists_ofLoading_ok_of_images {elements : List (PlacedElement × Except Cause Element)}
    (helements : placed.mapM (fun e => do return (e, ← resolution e)) = .ok elements)
    {images : List ImageResult} (himages : (plans placed).mapM loading.result = .ok images) :
    ∃ asked d, ofLoading loading config placed = (asked, .ok d) := by
  obtain ⟨layout, hlayout⟩ := exists_layout_ok images (resolved elements)
  rw [plans, ← resolved_eq helements, ← Loading.acquireAll_results] at himages
  refine ⟨(loading.acquireAll 0 (ImagePlan.ofElements (resolved elements))).1,
    ⟨config, elements, images, layout⟩, ?_⟩
  unfold ofLoading
  rw [helements]
  dsimp only
  rw [himages, ok_bind, hlayout]
  rfl

/-- After the first pass nothing ends the conversion. -/
theorem exists_ofLoading_ok (htexts : ∀ e ∈ placed, e.HasTexts) (hregular : loading.IsRegular)
    {elements : List (PlacedElement × Except Cause Element)}
    (helements : placed.mapM (fun e => do return (e, ← resolution e)) = .ok elements) :
    ∃ asked d, ofLoading loading config placed = (asked, .ok d) := by
  obtain ⟨images, himages⟩ := exists_images_ok htexts hregular
  exact exists_ofLoading_ok_of_images helements himages

/-- A conversion ends with the fault of an element that overflows, before any image is asked for. -/
theorem ofLoading_eq_error (htexts : ∀ e ∈ placed, e.HasTexts) (hregular : loading.IsRegular)
    {asked : List Quantity} (h : ofLoading loading config placed = (asked, .error reason)) :
    reason = .outOfRange ∧ asked = [] := by
  cases helements : placed.mapM fun e => do return (e, ← resolution e) with
  | ok elements =>
    have hcompletes : ∃ asked d, ofLoading loading config placed = (asked, .ok d) :=
      exists_ofLoading_ok htexts hregular helements
    obtain ⟨_, _, hok⟩ := hcompletes
    rw [h] at hok
    cases hok
  | error found =>
    have hloading : ofLoading loading config placed = ([], .error found) := by
      unfold ofLoading
      rw [helements]
    rw [hloading] at h
    cases h
    obtain ⟨e, he, hfault⟩ := mapM_eq_error helements
    rcases bind_eq_error_iff.mp hfault with hfault | ⟨_, -, hfault⟩
    · have hends := resolution_eq_error_iff.mp hfault
      exact ⟨((PlacedElement.ends_resolve_iff (htexts e he)).mp hends).2, rfl⟩
    · cases hfault

/-- A design ends with a label exactly if none of its elements overflows. There is no other fault,
    and with this one no image is asked for. -/
theorem design_completes_iff (config : Text) (htexts : ∀ e ∈ placed, e.HasTexts)
    (hregular : loading.IsRegular) :
    ((∃ asked d, ofLoading loading config placed = (asked, .ok d)) ↔
      ∀ e ∈ placed, ¬ e.Overflows) ∧
    ∀ asked reason, ofLoading loading config placed = (asked, .error reason) →
      reason = .outOfRange ∧ asked = [] := by
  refine ⟨?_, fun _ _ => ofLoading_eq_error htexts hregular⟩
  rw [← exists_elements_ok_iff htexts]
  constructor
  · rintro ⟨asked, d, h⟩
    exact ⟨d.elements, (ofLoading_eq_ok (congrArg Prod.snd h)).2.1⟩
  · rintro ⟨elements, helements⟩
    exact exists_ofLoading_ok htexts hregular helements

theorem isRegular_dotLoading : dotLoading.IsRegular := by
  refine ⟨fun _ source => ?_, 128, rfl, by decide, by decide⟩
  by_cases h : source = ['b']
  · exact .inr ⟨_, _, if_pos h⟩
  · exact .inl ⟨_, if_neg h⟩

theorem design_completes_iff_of_mixedDesign :
    (∀ e ∈ mixedDesign, e.HasTexts) ∧ dotLoading.IsRegular ∧
      (∃ asked d, ofLoading dotLoading Label.defaultConfig mixedDesign = (asked, .ok d)) ∧
      ∀ e ∈ mixedDesign, ¬ e.Overflows := by
  have htexts : ∀ e ∈ mixedDesign, e.HasTexts := by decide
  obtain ⟨d, hd⟩ : ∃ d, (ofLoading dotLoading Label.defaultConfig mixedDesign).2 = .ok d :=
    exists_of_isOk (by decide +kernel)
  have hcompletes : ∃ asked d,
      ofLoading dotLoading Label.defaultConfig mixedDesign = (asked, .ok d) := by
    refine ⟨(ofLoading dotLoading Label.defaultConfig mixedDesign).1, d, ?_⟩
    rw [← hd]
  exact ⟨htexts, isRegular_dotLoading, hcompletes,
    (design_completes_iff Label.defaultConfig htexts isRegular_dotLoading).1.mp hcompletes⟩

/-- A text at a column that no double counts. -/
def hugeDesign : List PlacedElement :=
  [⟨"text".toList, .ofInt (10 ^ 309), .ofInt 0, .missing, .missing, []⟩]

/-- The text ends the conversion. -/
theorem not_completes_of_hugeDesign :
    (∀ e ∈ hugeDesign, e.HasTexts) ∧ dotLoading.IsRegular ∧
      ¬ ∃ asked d, ofLoading dotLoading Label.defaultConfig hugeDesign = (asked, .ok d) := by
  refine ⟨by decide, isRegular_dotLoading, ?_⟩
  have herror : (match (ofLoading dotLoading Label.defaultConfig hugeDesign).2 with
      | .error reason => some reason
      | .ok _ => none) = some .outOfRange := by decide +kernel
  rintro ⟨asked, d, h⟩
  rw [h] at herror
  cases herror

end DesignConversion

end ThermalLabel
