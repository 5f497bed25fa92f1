/-
  A picture harms no other element.

  In two courses of loading that differ in the picture at one source only (`AgreeOff`), every image
  has the same name, and an element that is no image with this source has the same image, record and
  diagnostics (`unharmed_elsewhere`). So it does not matter to the others whether the picture can be
  had, or which it is.
-/
import ThermalLabel.Proofs.Design.Cancelling

namespace ThermalLabel

/-! ## Courses of loading -/

namespace Loading

variable {s : Text} {l other : Loading}

/-- Two courses of loading that differ at most in the pictures at a source. -/
structure AgreeOff (s : Text) (l other : Loading) : Prop where
  loader : ∀ image source, source ≠ s → other.loader image source = l.loader image source
  before : other.cancelledBefore = l.cancelledBefore
  after : other.cancelledAfter = l.cancelledAfter
  threshold : other.threshold = l.threshold

/-- Without cancellation, courses agree off a source if their loaders do. -/
theorem agreeOff_whole {loader changed : Loader} (threshold : Quantity)
    (h : ∀ source, source ≠ s → changed source = loader source) :
    AgreeOff s (whole loader threshold) (whole changed threshold) where
  loader _ := h
  before := rfl
  after := rfl
  threshold := rfl

theorem find_eq_of_agreeOff (h : AgreeOff s l other) (image : Nat) {source : Quantity}
    (hsource : source ≠ .text s) : other.find image source = l.find image source := by
  cases source with
  | text t =>
    have ht : t ≠ s := fun heq => hsource (congrArg Quantity.text heq)
    rw [find_text, find_text, h.loader image t ht]
  | number | flag | missing => rfl

theorem result_eq_of_agreeOff (h : AgreeOff s l other) {image : Nat} {plan : ImagePlan}
    (hplan : ∀ i name, plan ≠ .load i (.text s) name) :
    other.result (image, plan) = l.result (image, plan) := by
  cases plan with
  | taken i name => rfl
  | load i source name =>
    have hsource : source ≠ .text s := fun heq => hplan i name (heq ▸ rfl)
    refine result_congr (acquire_congr ?_ ?_ h.threshold (find_eq_of_agreeOff h image hsource))
    · rw [h.before]
    · rw [h.after]

end Loading

/-! ## Elements -/

namespace PlacedElement

/-- The element is an image with a source. -/
def shows (s : Text) (e : PlacedElement) : Bool :=
  match e.resolve with
  | .ok (.image _ _ source _) => source = .text s
  | _ => false

theorem shows_of_resolve {s : Text} {e : PlacedElement} {x y : Binary64} {given : Option Text}
    (h : e.resolve = .ok (.image x y (.text s) given)) : e.shows s := by
  unfold shows
  rw [h]
  exact decide_eq_true rfl

/-- The indexes of the placed elements that are no images with a source. -/
def others (s : Text) (placed : List PlacedElement) : List Nat :=
  (List.range placed.length).filter fun i => !placed[i]?.any (shows s)

theorem mem_others_iff {s : Text} {placed : List PlacedElement} {i : Nat} :
    i ∈ others s placed ↔ ∃ e, placed[i]? = some e ∧ e.shows s = false := by
  unfold others
  rw [List.mem_filter, List.mem_range]
  constructor
  · intro h
    have hat := List.getElem?_eq_getElem h.1
    have hshows := h.2
    rw [hat] at hshows
    exact ⟨placed[i], hat, by simpa using hshows⟩
  · rintro ⟨e, hat, hshows⟩
    refine ⟨(List.getElem?_eq_some_iff.mp hat).1, ?_⟩
    rw [hat]
    simpa using hshows

end PlacedElement

/-! ## The whole design -/

namespace DesignConversion

variable {s : Text} {loading other : Loading} {config : Text} {placed : List PlacedElement}
  {asked asked' : List Quantity} {d d' : DesignConversion}

/-- What two conversions of a design have in common off the images with a source: all names, the
    stored images of the other elements in their order, and all that these elements have. -/
structure AlikeOff (s : Text) (placed : List PlacedElement) (d d' : DesignConversion) : Prop where
  names : ∀ r ∈ PlacedElement.images placed,
    ∃ name, d.nameAt? r.index = some name ∧ d'.nameAt? r.index = some name
  stored : d.label.images = (List.range placed.length).filterMap d.imageOf? ∧
    d'.label.images = (List.range placed.length).filterMap d'.imageOf?
  images : (PlacedElement.others s placed).filterMap d'.imageOf? =
    (PlacedElement.others s placed).filterMap d.imageOf?
  written : d.label.records = (List.range placed.length).filterMap d.recordOf? ∧
    d'.label.records = (List.range placed.length).filterMap d'.recordOf?
  others : ∀ i ∈ PlacedElement.others s placed, SameAt d d' i

theorem sameAt_of_agreeOff (hagree : Loading.AgreeOff s loading other) (hd : Ran loading placed d)
    (hd' : Ran other placed d') {i : Nat} (hi : i ∈ PlacedElement.others s placed) :
    SameAt d d' i := by
  obtain ⟨e, hat, hshows⟩ := PlacedElement.mem_others_iff.mp hi
  refine sameAt_of_result hd hd' (List.getElem?_eq_some_iff.mp hat).1 fun plan hplan => ?_
  obtain ⟨hmem, hindex⟩ := planAt?_eq_some_iff.mp hplan
  refine Loading.result_eq_of_agreeOff hagree fun j name hload => ?_
  -- an image that is loaded from the source is none of the others
  obtain ⟨number, planned⟩ := plan
  subst hload
  obtain rfl : j = i := hindex
  obtain ⟨e', x, y, given, hat', hresolve⟩ := resolve_of_mem_plans hmem
  rw [hat, Option.some.injEq] at hat'
  subst hat'
  rw [PlacedElement.shows_of_resolve hresolve] at hshows
  cases hshows

/-- Every image has the same name in every course of loading. -/
theorem exists_name (hd : Ran loading placed d) (hd' : Ran other placed d') {r : ImageRequest}
    (hr : r ∈ PlacedElement.images placed) :
    ∃ name, d.nameAt? r.index = some name ∧ d'.nameAt? r.index = some name := by
  obtain ⟨p, hp⟩ := List.mem_iff_getElem?.mp hr
  exact ⟨_, (nameAt?_of_image hd hp).2, (nameAt?_of_image hd' hp).2⟩

/-- Whatever the picture at one source is, and whether there is one, the elements that do not show
    it come to the same. -/
theorem unharmed_elsewhere (hagree : Loading.AgreeOff s loading other)
    (h : ofLoading loading config placed = (asked, .ok d))
    (h' : ofLoading other config placed = (asked', .ok d')) : AlikeOff s placed d d' := by
  have hok : (ofLoading loading config placed).2 = .ok d := congrArg Prod.snd h
  have hok' : (ofLoading other config placed).2 = .ok d' := congrArg Prod.snd h'
  have hd := ran_of_ofLoading hok
  have hd' := ran_of_ofLoading hok'
  constructor
  case names => exact fun r => exists_name hd hd'
  case stored => exact ⟨hd.images_eq, hd'.images_eq⟩
  case images =>
    refine List.filterMap_congr fun i hi => ?_
    exact (sameAt_of_agreeOff hagree hd hd' hi).image
  case written => exact ⟨hd.records_eq, hd'.records_eq⟩
  case others => exact fun i => sameAt_of_agreeOff hagree hd hd'

/-- The pictures of the other loader, but none at one more source. -/
def poorerLoader : Loader := fun source =>
  if source = ['a'] then .error (.refused .malformed "no image") else dotLoader source

/-- The first image of the design cannot be had with the poorer loader; the second with its name and
    all others come to what they came to. -/
theorem unharmed_elsewhere_of_mixedDesign :
    Loading.AgreeOff ['a'] (.whole dotLoader Threshold.default)
        (.whole poorerLoader Threshold.default) ∧
      ∃ d d', ofLoading (.whole dotLoader Threshold.default) Label.defaultConfig mixedDesign =
          ([.text ['a'], .text ['b'], .text ['c']], .ok d) ∧
        ofLoading (.whole poorerLoader Threshold.default) Label.defaultConfig mixedDesign =
          ([.text ['a'], .text ['b'], .text ['c']], .ok d') ∧
        d.label.images.map StoredImage.name = [['A'], "IMG002".toList] ∧
        d'.label.images.map StoredImage.name = ["IMG002".toList] ∧
        AlikeOff ['a'] mixedDesign d d' := by
  have hagree : Loading.AgreeOff ['a'] (.whole dotLoader Threshold.default)
      (.whole poorerLoader Threshold.default) :=
    Loading.agreeOff_whole _ fun source hsource => if_neg hsource
  have hasked : (ofLoading (.whole dotLoader Threshold.default) Label.defaultConfig
      mixedDesign).1 = [.text ['a'], .text ['b'], .text ['c']] := by decide +kernel
  have hasked' : (ofLoading (.whole poorerLoader Threshold.default) Label.defaultConfig
      mixedDesign).1 = [.text ['a'], .text ['b'], .text ['c']] := by decide +kernel
  have hnames : (ofLoading (.whole dotLoader Threshold.default) Label.defaultConfig
      mixedDesign).2.map (fun d => d.label.images.map StoredImage.name) =
      .ok [['A'], "IMG002".toList] := by decide +kernel
  have hnames' : (ofLoading (.whole poorerLoader Threshold.default) Label.defaultConfig
      mixedDesign).2.map (fun d => d.label.images.map StoredImage.name) =
      .ok ["IMG002".toList] := by decide +kernel
  obtain ⟨d, hd, hnames⟩ := map_eq_ok_iff.mp hnames
  obtain ⟨d', hd', hnames'⟩ := map_eq_ok_iff.mp hnames'
  exact ⟨hagree, d, d', Prod.ext hasked hd, Prod.ext hasked' hd', hnames, hnames',
    unharmed_elsewhere hagree (Prod.ext hasked hd) (Prod.ext hasked' hd')⟩

end DesignConversion

end ThermalLabel
