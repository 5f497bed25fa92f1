/-
  Every image of a design has its own name and its own picture.

  An image without a name gets the free number that has as many free ones before it as there are
  images without a name before the image. A name that is given goes to the first image that has it,
  and every later one is skipped (`pictures_named`). So no two images are stored under one name
  (`nodup_imageNames`), and what a recall shows is the picture of its own element
  (`picture_of_recall`).
-/
import ThermalLabel.Proofs.Design.Accounting

namespace ThermalLabel

/-- Among images with different names the name tells the image. -/
theorem filter_name_eq_singleton {images : List StoredImage}
    (h : (images.map StoredImage.name).Nodup) {image : StoredImage} (himage : image ∈ images) :
    images.filter (fun other => other.name = image.name) = [image] := by
  induction images with
  | nil => cases himage
  | cons first images ih =>
    rw [List.map_cons, List.nodup_cons] at h
    rcases List.mem_cons.mp himage with rfl | himage
    · have hrest : images.filter (fun other => other.name = image.name) = [] := by
        refine List.filter_eq_nil_iff.mpr fun other hother hname => h.1 ?_
        exact List.mem_map.mpr ⟨other, hother, of_decide_eq_true hname⟩
      rw [List.filter_cons_of_pos (by simp), hrest]
    · have hne : first.name ≠ image.name :=
        fun hname => h.1 (List.mem_map.mpr ⟨image, himage, hname.symm⟩)
      rw [List.filter_cons_of_neg (by simpa using hne)]
      exact ih h.2 himage

/-! ## One element -/

namespace Trace.Of

variable {loading : Loading} {plans : List (Nat × ImagePlan)} {i : Nat} {e : PlacedElement}
  {t : Trace}

/-- An image whose loading is reported has nothing else. -/
theorem only_of_loading (h : Of loading plans i e t) {report : Diagnostic}
    (hreport : t.loading = some report) :
    t.reports = [report] ∧ t.image = none ∧ t.record = none := by
  cases h with
  | unstored =>
    cases hreport
    exact ⟨rfl, rfl, rfl⟩
  | unresolved | drawn | undrawn | recalled | misplaced => cases hreport

/-- A record that recalls an image is that of an image that is stored. -/
theorem image_of_recall (h : Of loading plans i e t) {row column : Position} {name : Text}
    (hrecord : t.record = some (.recallImage row column name)) :
    ∃ image, t.image = some image ∧ image.name = name := by
  cases h with
  | unresolved | undrawn | unstored | misplaced => cases hrecord
  | recalled =>
    cases hrecord
    exact ⟨_, rfl, rfl⟩
  | drawn resolve figured recorded =>
    cases hrecord
    obtain ⟨x, y, rfl⟩ := (Figure.record_texts _ recorded).2 row column name rfl
    cases (Element.fieldText_of_figure? (figured none)).2 _ _ _ rfl

end Trace.Of

/-! ## Designs -/

namespace DesignConversion

/-- The name of the image of the element with an index: the one it is stored under, or the one that
    its report shows. -/
def nameAt? (d : DesignConversion) (i : Nat) : Option Text := (d.resultAt? i).map ImageResult.name

variable {loading : Loading} {config : Text} {placed : List PlacedElement} {asked : List Quantity}
  {d : DesignConversion}

theorem nodup_loadNames (placed : List PlacedElement) :
    ((plans placed).filterMap fun plan => plan.2.loadName?).Nodup := by
  have hplans : (plans placed).Pairwise fun a b =>
      ∀ name later, a.2.loadName? = some name → b.2.loadName? = some later → name ≠ later := by
    rw [List.pairwise_iff_getElem]
    intro p q hp hq hpq name later hname hlater
    have hfirst := plans_getElem? placed p
    have hsecond := plans_getElem? placed q
    rw [List.getElem?_eq_getElem hp, Option.map_some, eq_comm, Option.map_eq_some_iff] at hfirst
    rw [List.getElem?_eq_getElem hq, Option.map_some, eq_comm, Option.map_eq_some_iff] at hsecond
    obtain ⟨r, hr, hplan⟩ := hfirst
    obtain ⟨other, hother, hplan'⟩ := hsecond
    rw [← hplan] at hname
    rw [← hplan'] at hlater
    exact ImagePlan.name_ne_of_lt (PlacedElement.imageNames_eq placed) hr hother hpq hname hlater
  exact hplans.filterMap _ fun a b hab name hname later hlater => hab name later hname hlater

/-- The images of a design have different names. -/
theorem nodup_imageNames (h : Ran loading placed d) :
    (d.label.images.map StoredImage.name).Nodup := by
  have hsublist : (d.images.filterMap fun r => r.image?.map StoredImage.name).Sublist
      ((plans placed).filterMap fun plan => plan.2.loadName?) := by
    refine sublist_of_mapM ?_ h.images
    rintro ⟨number, plan⟩ ⟨i, own, outcome⟩ name hresult hname
    cases outcome with
    | skipped cause => cases hname
    | stored image =>
      cases hname
      obtain ⟨source, rfl, rfl, -⟩ := Loading.keeps_of_result hresult
      rfl
  have hnames : d.label.images.map StoredImage.name =
      d.images.filterMap fun r => r.image?.map StoredImage.name := List.map_filterMap
  rw [hnames]
  exact hsublist.nodup (nodup_loadNames placed)

/-- The element of an image whose name is taken asks for no picture. -/
theorem not_mem_calls_of_taken {p : Nat} {r : ImageRequest} {name : Text}
    (hr : (PlacedElement.images placed)[p]? = some r)
    (hplan : planOf placed p r = .taken r.index name) :
    r.index ∉ (calls loading placed).map Prod.fst := by
  intro h
  obtain ⟨call, hcall, hindex⟩ := List.mem_map.mp h
  obtain ⟨number, loaded, hmem⟩ := mem_plans_of_mem_calls hcall
  obtain ⟨q, other, hother, hload⟩ := exists_image_of_mem_plans hmem
  have hsame : call.1 = other.index := by
    have hindexes := congrArg ImagePlan.index hload
    rw [index_planOf] at hindexes
    exact hindexes
  have hpq : p = q := getElem?_key_inj (PlacedElement.pairwise_images placed) hr hother
    (hindex.symm.trans hsame)
  subst hpq
  rw [hr, Option.some.injEq] at hother
  subst hother
  rw [hplan] at hload
  cases hload

/-- An image has the name that is planned for it, and is loaded under it if that is planned. -/
theorem nameAt?_of_image (h : Ran loading placed d) {p : Nat} {r : ImageRequest}
    (hr : (PlacedElement.images placed)[p]? = some r) :
    (∃ number, (number, planOf placed p r) ∈ plans placed) ∧
      d.nameAt? r.index = some (planOf placed p r).name := by
  obtain ⟨number, result, hplanned, hresult, hfound⟩ := h.resultAt?_of_image hr
  refine ⟨⟨number, hplanned⟩, ?_⟩
  rw [nameAt?, hfound]
  exact congrArg some (Loading.result_names hresult).2

theorem named_of_load (h : Ran loading placed d) {p : Nat} {r : ImageRequest} {name : Text}
    (hr : (PlacedElement.images placed)[p]? = some r)
    (hplan : planOf placed p r = .load r.index r.source name) :
    (∃ number, (number, .load r.index r.source name) ∈ plans placed) ∧
      d.nameAt? r.index = some name := by
  have hnamed := nameAt?_of_image h hr
  rw [hplan] at hnamed
  exact hnamed

theorem skipped_of_taken (h : Ran loading placed d) {p : Nat} {r : ImageRequest} {name : Text}
    (hr : (PlacedElement.images placed)[p]? = some r)
    (hplan : planOf placed p r = .taken r.index name) :
    d.reports r.index = [⟨some r.index, name, .nameTaken name⟩] ∧ d.imageOf? r.index = none ∧
      d.recordOf? r.index = none := by
  obtain ⟨number, result, -, hresult, hfound⟩ := h.resultAt?_of_image hr
  rw [hplan] at hresult
  cases hresult
  obtain ⟨e, x, y, hat, -⟩ := PlacedElement.mem_images_iff.mp (List.mem_of_getElem? hr)
  have hreport : d.imageReport? r.index = some ⟨some r.index, name, .nameTaken name⟩ := by
    rw [imageReport?, hfound]
    rfl
  rw [h.reports_eq (List.getElem?_eq_some_iff.mp hat).1]
  exact (h.traced hat).only_of_loading hreport

theorem getElem?_of_eq_append {images before after : List ImageRequest} {r : ImageRequest}
    (h : images = before ++ r :: after) :
    images[before.length]? = some r ∧ images.take before.length = before := by
  subst h
  exact ⟨by simp, by simp⟩

theorem lt_length_of_recordOf? (h : Ran loading placed d) {i : Nat} {record : Record}
    (hrecord : d.recordOf? i = some record) : i < placed.length := by
  obtain ⟨l, hl, -⟩ := Option.bind_eq_some_iff.mp hrecord
  rw [← index_of_layoutAt? hl]
  exact h.index_lt_of_mem_layout (List.mem_of_find?_eq_some hl)

theorem mem_images_of_imageOf? (h : Ran loading placed d) {i : Nat} {image : StoredImage}
    (hi : i < placed.length) (himage : d.imageOf? i = some image) : image ∈ d.label.images := by
  rw [h.images_eq]
  exact List.mem_filterMap.mpr ⟨i, List.mem_range.mpr hi, himage⟩

theorem nameAt?_of_imageOf? (h : Ran loading placed d) {i : Nat} {image : StoredImage}
    (himage : d.imageOf? i = some image) : d.nameAt? i = some image.name := by
  obtain ⟨⟨index, name, outcome⟩, hfound, himage⟩ := Option.bind_eq_some_iff.mp himage
  cases outcome with
  | skipped cause => cases himage
  | stored made =>
    cases himage
    obtain ⟨⟨number, plan⟩, -, hresult⟩ :=
      exists_of_mem_mapM h.images (List.mem_of_find?_eq_some hfound)
    obtain ⟨source, -, hname, -⟩ := Loading.keeps_of_result hresult
    rw [nameAt?, hfound, hname]
    rfl

theorem nameAt?_of_imageReport? {i : Nat} {report : Diagnostic}
    (hreport : d.imageReport? i = some report) : d.nameAt? i = some report.source := by
  obtain ⟨⟨index, name, outcome⟩, hfound, hreport⟩ := Option.bind_eq_some_iff.mp hreport
  cases outcome with
  | stored image => cases hreport
  | skipped cause =>
    cases hreport
    rw [nameAt?, hfound]
    rfl

/-- How the images of a design are named, and what its recalls show. The search for a free number
    ends with the least one after the last. The images without a name get the free numbers in their
    order, whatever becomes of them; a name that is given goes to the first image that has it, and a
    later one is reported and asks for nothing. An image is stored or reported under its name. No
    two are stored under one name, and a recall is of the image whose data are the picture that was
    loaded for its element. -/
structure Named (loading : Loading) (placed : List PlacedElement) (asked : List Quantity)
    (d : DesignConversion) : Prop where
  search : ∀ last,
    IsLeast {n | last < n ∧ ImagePlan.generatedName n ∉ PlacedElement.imageNames placed}
      (ImagePlan.nextNumber (PlacedElement.imageNames placed) last)
  unnamed : ∀ (k : Nat) r name,
    ((PlacedElement.images placed).filter fun r => r.given.isNone)[k]? = some r →
    name = ImagePlan.generatedName
      (Nat.nth (ImagePlan.IsFree (PlacedElement.imageNames placed)) k) →
    (∃ number, (number, .load r.index r.source name) ∈ plans placed) ∧
      d.nameAt? r.index = some name
  first : ∀ before r after name, PlacedElement.images placed = before ++ r :: after →
    r.given = some name → (∀ earlier ∈ before, earlier.given ≠ some name) →
    (∃ number, (number, .load r.index r.source name) ∈ plans placed) ∧
      d.nameAt? r.index = some name
  later : ∀ before r after name, PlacedElement.images placed = before ++ r :: after →
    r.given = some name → (∃ earlier ∈ before, earlier.given = some name) →
    (∃ report, d.reports r.index = [report] ∧ report.kind = .malformed ∧
      report.cause = .nameTaken name) ∧
      d.imageOf? r.index = none ∧ d.recordOf? r.index = none ∧
      r.index ∉ (calls loading placed).map Prod.fst
  asked : asked = (calls loading placed).map Prod.snd
  stored : ∀ i image, d.imageOf? i = some image → d.nameAt? i = some image.name
  reported : ∀ i report, d.imageReport? i = some report → d.nameAt? i = some report.source
  distinct : (d.label.images.map StoredImage.name).Nodup
  recalled : ∀ (i : Nat) row column name, d.recordOf? i = some (.recallImage row column name) →
    ∃ e x y source given number image, placed[i]? = some e ∧
      e.resolve = .ok (.image x y source given) ∧ (number, .load i source name) ∈ plans placed ∧
      loading.Keeps number source image ∧
      d.label.images.filter (fun other => other.name = name) = [image]

/-- A recall is of the picture that was loaded for its element. -/
theorem picture_of_recall (h : Ran loading placed d) {i : Nat} {row column : Position}
    {name : Text} (hrecord : d.recordOf? i = some (.recallImage row column name)) :
    ∃ e x y source given number image, placed[i]? = some e ∧
      e.resolve = .ok (.image x y source given) ∧ (number, .load i source name) ∈ plans placed ∧
      loading.Keeps number source image ∧
      d.label.images.filter (fun other => other.name = name) = [image] := by
  have hi := lt_length_of_recordOf? h hrecord
  have hat := List.getElem?_eq_getElem hi
  have htraced := h.traced hat
  obtain ⟨image, himage, rfl⟩ := htraced.image_of_recall hrecord
  obtain ⟨x, y, source, given, number, hresolve, hplanned, hkept⟩ :=
    htraced.keeps_of_image himage
  exact ⟨_, x, y, source, given, number, image, hat, hresolve, hplanned, hkept,
    filter_name_eq_singleton (nodup_imageNames h) (mem_images_of_imageOf? h hi himage)⟩

/-- Every image of a design that is converted has its own name, and every recall shows its own
    picture. -/
theorem pictures_named (h : ofLoading loading config placed = (asked, .ok d)) :
    Named loading placed asked d := by
  have hok : (ofLoading loading config placed).2 = .ok d := congrArg Prod.snd h
  have hran := ran_of_ofLoading hok
  constructor
  case search => exact ImagePlan.isLeast_nextNumber _
  case unnamed =>
    rintro k r _ hk rfl
    obtain ⟨p, hr, hunnamed, rfl⟩ := exists_of_getElem?_filter hk
    have hnone := Option.isNone_iff_eq_none.mp hunnamed
    exact named_of_load hran hr (ImagePlan.planned_of_unnamed hnone)
  case first =>
    intro before r after name hsplit hname hfirst
    obtain ⟨hr, hbefore⟩ := getElem?_of_eq_append hsplit
    refine named_of_load hran hr (ImagePlan.planned_of_first hname ?_)
    rw [hbefore]
    exact hfirst
  case later =>
    rintro before r after name hsplit hname ⟨earlier, hearlier, hgiven⟩
    obtain ⟨hr, hbefore⟩ := getElem?_of_eq_append hsplit
    have hplan : planOf placed before.length r = .taken r.index name := by
      refine ImagePlan.planned_of_later hname ?_ hgiven
      rw [hbefore]
      exact hearlier
    obtain ⟨hreports, himage, hrecord⟩ := skipped_of_taken hran hr hplan
    exact ⟨⟨_, hreports, rfl, rfl⟩, himage, hrecord, not_mem_calls_of_taken hr hplan⟩
  case asked => rw [← asked_eq hok, h]
  case stored => exact fun i image => nameAt?_of_imageOf? hran
  case reported => exact fun i report => nameAt?_of_imageReport?
  case distinct => exact nodup_imageNames hran
  case recalled => exact fun i row column name => picture_of_recall hran

/-- Two images without a name, the first of which cannot be had, and two that are given the name
    behind the first of the generated ones. -/
def namedDesign : List PlacedElement :=
  [⟨"image".toList, .ofInt 1, .ofInt 2, .missing, .missing, [("src".toList, .text ['b'])]⟩,
    ⟨"image".toList, .ofInt 1, .ofInt 2, .missing, .missing,
      [("src".toList, .text ['a']), ("image-name".toList, .text "IMG002".toList)]⟩,
    ⟨"image".toList, .ofInt 1, .ofInt 2, .missing, .missing, [("src".toList, .text ['c'])]⟩,
    ⟨"image".toList, .ofInt 1, .ofInt 2, .missing, .missing,
      [("src".toList, .text ['c']), ("image-name".toList, .text "IMG002".toList)]⟩]

theorem pictures_named_of_namedDesign :
    ∃ d, ofLoading dotLoading Label.defaultConfig namedDesign =
        ([.text ['b'], .text ['a'], .text ['c']], .ok d) ∧
      d.label.images.map StoredImage.name = ["IMG002".toList, "IMG003".toList] ∧
      Named dotLoading namedDesign [.text ['b'], .text ['a'], .text ['c']] d := by
  have hasked : (ofLoading dotLoading Label.defaultConfig namedDesign).1 =
      [.text ['b'], .text ['a'], .text ['c']] := by decide +kernel
  have hnames : (ofLoading dotLoading Label.defaultConfig namedDesign).2.map
      (fun d => d.label.images.map StoredImage.name) =
      .ok ["IMG002".toList, "IMG003".toList] := by decide +kernel
  obtain ⟨d, hd, hnames⟩ := map_eq_ok_iff.mp hnames
  have h : ofLoading dotLoading Label.defaultConfig namedDesign =
      ([.text ['b'], .text ['a'], .text ['c']], .ok d) := Prod.ext hasked hd
  exact ⟨d, h, hnames, pictures_named h⟩

end DesignConversion

end ThermalLabel
