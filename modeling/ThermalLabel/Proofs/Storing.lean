/-
  Every image that a conversion hands to its label is accepted.

  A label checks the name and the data of an image before it stores it. A download has a name of
  word characters, and its data are checked when they are expanded; an image of a design has a name
  that was checked or generated, and data that are written digit by digit. So the checks of the
  label never fail, neither for label texts nor for designs (`never_refused`), although a
  conversion may end for other reasons after any number of images.
-/
import ThermalLabel.Proofs.Design.Completion
import ThermalLabel.Proofs.Recalls
import ThermalLabel.Script.Call

namespace ThermalLabel

/-! ## Checks -/

namespace StoredImage

/-- The name has word characters only and at least one, and the data are hexadecimal. -/
structure IsAccepted (image : StoredImage) : Prop extends image.IsChecked where
  named : image.name ≠ []

/-- The call that stores an image. -/
def call (image : StoredImage) : LabelCall := .storeImage (.text image.name) (.text image.data)

variable {image : StoredImage}

theorem IsAccepted.make_eq (h : image.IsAccepted) : make image.name image.data = .ok image := by
  rw [make, if_neg (by simp [h.named, h.name]), if_neg (by simp [h.data])]

/-- Both checks of the call go through, and the image is added. -/
theorem IsAccepted.build_call (h : image.IsAccepted) (label : Label) :
    image.call.build label = .ok () { label with images := label.images ++ [image] } := by
  have hname : (decide (image.name ≠ []) && image.name.all Text.isWord) = true := by
    rw [h.name, decide_eq_true h.named]
    rfl
  show (Building.require (decide (image.name ≠ []) && image.name.all Text.isWord)
      .storedNameNotWord >>= fun _ =>
    Building.require (image.data.all isHexadecimal) .storedDataNotHexadecimal >>= fun _ =>
      Building.store ⟨image.name, image.data⟩ : Building Unit) label = _
  rw [hname, h.data]
  rfl

end StoredImage

/-- The faults of the two checks of the storage. -/
inductive Fault.OfStorage : Fault → Prop
  | name : OfStorage .storedNameNotWord
  | data : OfStorage .storedDataNotHexadecimal

theorem Fault.not_ofStorage_of_kind {reason : Fault} (h : reason.diagnosticKind?.isSome) :
    ¬ reason.OfStorage := by
  intro hstorage
  cases hstorage with
  | name => cases h
  | data => cases h

theorem StoredImage.not_ofStorage {image : StoredImage} {reason : Fault} (himage : image.IsAccepted)
    {β : Type} {f : StoredImage → β} (h : (make image.name image.data).map f = .error reason) :
    ¬ reason.OfStorage := by
  rw [himage.make_eq] at h
  cases h

/-! ## What is handed over -/

/-- The images that the steps of a run hand over, up to the first step that fails. -/
def handedOver {α β : Type} (step : α → Except Fault β) (image? : α → Option StoredImage) :
    List α → List StoredImage
  | [] => []
  | a :: later =>
    (image? a).toList ++ if (step a).isOk then handedOver step image? later else []

section HandedOver

variable {α β : Type} {step : α → Except Fault β} {image? : α → Option StoredImage} {items : List α}

theorem exists_of_mem_handedOver {image : StoredImage} (h : image ∈ handedOver step image? items) :
    ∃ a ∈ items, image? a = some image := by
  induction items with
  | nil => cases h
  | cons a later ih =>
    rw [handedOver, List.mem_append] at h
    rcases h with h | h
    · exact ⟨a, List.mem_cons_self, Option.mem_toList.mp h⟩
    · split at h
      · obtain ⟨b, hb, himage⟩ := ih h
        exact ⟨b, List.mem_cons_of_mem a hb, himage⟩
      · cases h

/-- A run without failures hands over the images of all its items. -/
theorem handedOver_eq_filterMap {results : List β} (h : items.mapM step = .ok results) :
    handedOver step image? items = items.filterMap image? := by
  induction items generalizing results with
  | nil => rfl
  | cons a later ih =>
    obtain ⟨b, hb, rest, hrest, -⟩ := mapM_cons_eq_ok_iff.mp h
    have hok : (step a).isOk := by
      rw [hb]
      rfl
    rw [handedOver, if_pos hok, ih hrest]
    cases himage : image? a with
    | none => rw [List.filterMap_cons_none himage]; rfl
    | some image => rw [List.filterMap_cons_some himage]; rfl

end HandedOver

/-! ## Faults of other steps -/

theorem Quantity.not_ofStorage_of_pixels {q : Quantity} :
    ∀ reason, q.pixels = .error reason → ¬ reason.OfStorage := by
  intro reason h
  rcases pixels_eq_error h with rfl | rfl <;> exact nofun

theorem Quantity.not_ofStorage_of_plus {p q : Quantity} :
    ∀ reason, p.plus q = .error reason → ¬ reason.OfStorage := by
  intro reason h
  rcases plus_eq_error h with rfl | rfl <;> exact nofun

theorem Position.not_ofStorage_of_read {q : Quantity} :
    ∀ reason, read q = .error reason → ¬ reason.OfStorage := by
  refine forall_error_bind Quantity.not_ofStorage_of_pixels fun x reason h => ?_
  exact Fault.not_ofStorage_of_kind (by rw [ofPixels_eq_error h]; rfl)

theorem Size.not_ofStorage_of_read {q : Quantity} :
    ∀ reason, read q = .error reason → ¬ reason.OfStorage := by
  refine forall_error_bind Quantity.not_ofStorage_of_pixels fun x reason h => ?_
  rw [ofPixels_eq_error h]
  exact nofun

theorem Figure.not_ofStorage_of_record {figure : Figure} :
    ∀ reason, figure.record = .error reason → ¬ reason.OfStorage := by
  have hread := @Position.not_ofStorage_of_read
  have hplus := @Quantity.not_ofStorage_of_plus
  have hsize := @Size.not_ofStorage_of_read
  cases figure with
  | text | barcode | recallImage =>
    refine forall_error_bind hread fun _ => forall_error_bind hread fun _ _ h => ?_
    cases h
  | box | line =>
    refine forall_error_bind hread fun _ => forall_error_bind hread fun _ =>
      forall_error_bind hplus fun _ => forall_error_bind hread fun _ =>
      forall_error_bind hplus fun _ => forall_error_bind hread fun _ =>
      forall_error_bind hsize fun _ _ h => ?_
    cases h
  | circle =>
    refine forall_error_bind hread fun _ => forall_error_bind hread fun _ =>
      forall_error_bind hsize fun _ => forall_error_bind hsize fun _ _ h => ?_
    cases h

/-! ## Label texts -/

namespace Download

variable {d : Download} {strictness : Strictness} {reason : Fault}

/-- A download hands over its image if its payload expands, and what becomes of it is what the
    storage says to that. -/
theorem outcome_of_image? {image : StoredImage} (h : d.image? = some image) :
    d.outcome strictness = (StoredImage.make image.name image.data).map .stored := by
  obtain ⟨data, hdata, rfl⟩ := Option.map_eq_some_iff.mp h
  rw [outcome, toOption_eq_some_iff.mp hdata]

theorem expansion_of_image?_none (h : d.image? = none) :
    ∃ reason, d.expansion = .error reason := by
  cases hexpansion : d.expansion with
  | ok data =>
    rw [image?, hexpansion] at h
    cases h
  | error reason => exact ⟨reason, rfl⟩

theorem isAccepted_of_image? (hname : d.name ≠ [] ∧ ∀ c ∈ d.name, Text.isWord c)
    (hpayload : ∀ c ∈ d.payload, c.isAlphanum) {image : StoredImage} (h : d.image? = some image) :
    image.IsAccepted := by
  obtain ⟨data, hdata, rfl⟩ := Option.map_eq_some_iff.mp h
  have hhexadecimal := expansion_hexadecimal hpayload (toOption_eq_some_iff.mp hdata)
  exact ⟨⟨List.all_eq_true.mpr hname.2, hhexadecimal⟩, hname.1⟩

theorem not_ofStorage_of_outcome (hname : d.name ≠ [] ∧ ∀ c ∈ d.name, Text.isWord c)
    (hpayload : ∀ c ∈ d.payload, c.isAlphanum) (h : d.outcome strictness = .error reason) :
    ¬ reason.OfStorage := by
  cases himage : d.image? with
  | some image =>
    rw [outcome_of_image? himage] at h
    exact StoredImage.not_ofStorage (isAccepted_of_image? hname hpayload himage) h
  | none =>
    obtain ⟨found, hfound⟩ := expansion_of_image?_none himage
    rw [outcome, hfound] at h
    dsimp only at h
    split at h
    · cases h
      have hkind := expansion_eq_error hfound
      intro hstorage
      cases hstorage with
      | name => cases hkind
      | data => cases hkind
    · cases h

end Download

namespace Conversion

variable {strictness : Strictness} {config zpl : Text} {c : Conversion} {reason : Fault}

/-- The images that the conversion of a text hands to the label, until it ends. -/
def handed (strictness : Strictness) (zpl : Text) : List StoredImage :=
  match Download.all zpl with
  | .ok downloads => handedOver (Download.outcome strictness) Download.image? downloads
  | .error _ => []

theorem isAccepted_of_mem_handed {image : StoredImage} (h : image ∈ handed strictness zpl) :
    image.IsAccepted := by
  unfold handed at h
  split at h
  · next downloads hall =>
    obtain ⟨d, hd, himage⟩ := exists_of_mem_handedOver h
    exact Download.isAccepted_of_image? (Download.all_name hall hd) (Download.all_payload hall hd)
      himage
  · cases h

/-- A conversion that goes through has handed over the images of its label. -/
theorem images_eq_handed (h : ofText strictness config zpl = .ok c) :
    c.label.images = handed strictness zpl := by
  obtain ⟨downloads, hall, hgraphics, -⟩ := ofText_eq_ok_iff.mp h
  have hsteps : ∃ results, downloads.mapM (Download.outcome strictness) = .ok results := by
    rw [exists_mapM_ok_iff]
    intro d hd
    obtain ⟨_, h⟩ := exists_mapM_ok_iff.mp ⟨_, hgraphics⟩ d hd
    obtain ⟨outcome, houtcome, -⟩ := bind_eq_ok_iff.mp h
    exact ⟨outcome, houtcome⟩
  obtain ⟨results, hresults⟩ := hsteps
  rw [images_eq_filterMap hgraphics, handed, hall]
  exact (handedOver_eq_filterMap hresults).symm

theorem not_ofStorage_of_ofText (h : ofText strictness config zpl = .error reason) :
    ¬ reason.OfStorage := by
  rcases bind_eq_error_iff.mp h with h | ⟨downloads, hall, h⟩
  · obtain ⟨s, -, hread⟩ := mapM_eq_error h
    obtain ⟨count, -, rfl⟩ := Download.Source.read_eq_error reason hread
    exact nofun
  rcases bind_eq_error_iff.mp h with h | ⟨graphics, -, h⟩
  · obtain ⟨d, hd, hstep⟩ := mapM_eq_error h
    rcases bind_eq_error_iff.mp hstep with hstep | ⟨_, -, hstep⟩
    · exact Download.not_ofStorage_of_outcome (Download.all_name hall hd)
        (Download.all_payload hall hd) hstep
    · cases hstep
  · dsimp only at h
    split at h
    · cases h
    · rcases bind_eq_error_iff.mp h with h | ⟨_, -, h⟩
      · obtain ⟨i, command, -, hend⟩ := Command.outcomes_eq_error h
        obtain ⟨figure, -, hrecord, -⟩ := Command.outcome_eq_error_iff.mp hend
        exact Figure.not_ofStorage_of_record reason hrecord
      · cases h

end Conversion

/-! ## Designs -/

theorem Cause.eq_of_ofFault {reason found : Fault} (h : ofFault reason = .error found) :
    found = reason := by
  unfold ofFault at h
  split at h
  · cases h
  · cases h
    rfl

namespace Loading

variable {l : Loading} {number i : Nat} {source : Quantity} {name : Text} {reason : Fault}

/-- The image that is handed over for a planned image: none if it is not to be loaded, if loading is
    cancelled, or if there is no picture or none that can be thresholded. -/
def image? (l : Loading) : Nat × ImagePlan → Option StoredImage
  | (_, .taken ..) => none
  | (number, .load _ source name) =>
    if l.cancelledBefore number then none
    else
      match l.find number source with
      | .error _ => none
      | .ok picture =>
        if l.cancelledAfter number then none
        else (picture.encode l.threshold).toOption.map fun data => ⟨name, data⟩

theorem image?_eq_some_iff {image : StoredImage} :
    l.image? (number, .load i source name) = some image ↔
      l.cancelledBefore number = false ∧ ∃ picture, l.find number source = .ok picture ∧
        l.cancelledAfter number = false ∧ ∃ data, picture.encode l.threshold = .ok data ∧
          ⟨name, data⟩ = image := by
  unfold image?
  dsimp only
  cases l.cancelledBefore number with
  | true => simp
  | false =>
    cases l.find number source with
    | error reason => simp
    | ok picture =>
      cases l.cancelledAfter number with
      | true => simp
      | false => simp [toOption_eq_some_iff]

/-- What becomes of an image that is handed over is what the storage says to it. -/
theorem acquire_of_image? {image : StoredImage}
    (h : l.image? (number, .load i source name) = some image) :
    l.acquire number source name = (StoredImage.make image.name image.data).map .stored := by
  obtain ⟨hbefore, picture, hfind, hafter, data, hencode, rfl⟩ := image?_eq_some_iff.mp h
  rw [acquire, if_neg (by simp [hbefore]), hfind]
  dsimp only
  rw [if_neg (by simp [hafter]), store, hencode]

theorem find_not_ofStorage :
    ∀ reason, l.find number source = .error reason → ¬ reason.OfStorage := by
  refine forall_error_bind (fun reason h => ?_) fun text reason h => ?_
  · unfold Quantity.literal at h
    split at h
    · cases h
    · cases h
      exact nofun
  · obtain ⟨fault, -, rfl⟩ := mapError_eq_error_iff.mp h
    exact nofun

theorem encode_not_ofStorage {picture : Picture} {threshold : Quantity} :
    ∀ reason, picture.encode threshold = .error reason → ¬ reason.OfStorage := by
  refine forall_error_bind (forall_error_bind (fun reason h => ?_) fun t =>
    forall_error_bind (fun reason h => ?_) fun _ _ h => ?_) fun _ _ h => ?_
  · unfold Threshold.read at h
    repeat' split at h
    all_goals cases h
    all_goals exact nofun
  · obtain ⟨fault, -, rfl⟩ := mapError_eq_error_iff.mp h
    exact nofun
  · cases h
  · cases h

/-- What is wrong with an image that is not handed over is no matter of the storage. -/
theorem not_ofStorage_of_image?_none (h : l.image? (number, .load i source name) = none)
    (herror : l.acquire number source name = .error reason) : ¬ reason.OfStorage := by
  unfold acquire at herror
  split at herror
  · cases herror
  next hbefore =>
  split at herror
  · next found hfind =>
    rw [Cause.eq_of_ofFault (map_eq_error_iff.mp herror)]
    exact find_not_ofStorage found hfind
  next picture hfind =>
  split at herror
  · cases herror
  next hafter =>
  unfold store at herror
  split at herror
  · next data hencode =>
    have himage : l.image? (number, .load i source name) = some ⟨name, data⟩ :=
      image?_eq_some_iff.mpr ⟨eq_false_of_ne_true hbefore, picture, hfind,
        eq_false_of_ne_true hafter, data, hencode, rfl⟩
    rw [h] at himage
    cases himage
  · next found hencode =>
    rw [Cause.eq_of_ofFault (map_eq_error_iff.mp herror)]
    exact encode_not_ofStorage found hencode

end Loading

namespace PlacedElement

variable {e : PlacedElement}

theorem not_ofStorage_of_size {dimension : String} {given : Quantity} :
    ∀ reason, e.size dimension given = .error reason → ¬ reason.OfStorage := by
  intro reason h
  unfold size at h
  split at h
  · cases h
    exact nofun
  · exact Quantity.not_ofStorage_of_pixels reason h

theorem not_ofStorage_of_symbology :
    ∀ reason, e.symbology = .error reason → ¬ reason.OfStorage := by
  intro reason h
  unfold symbology at h
  split at h
  · cases h
  · cases h
    exact nofun

theorem not_ofStorage_of_source : ∀ reason, e.source = .error reason → ¬ reason.OfStorage := by
  intro reason h
  rw [elim_eq_error h]
  exact nofun

theorem not_ofStorage_of_imageName :
    ∀ reason, e.imageName = .error reason → ¬ reason.OfStorage := by
  unfold imageName
  split
  · intro reason h
    cases h
  · refine forall_error_bind (fun reason h => ?_) fun name reason h => ?_
    · unfold Quantity.literal at h
      split at h
      · cases h
      · cases h
        exact nofun
    · split at h
      · cases h
      · cases h
        exact nofun

theorem not_ofStorage_of_resolve : ∀ reason, e.resolve = .error reason → ¬ reason.OfStorage := by
  have hpixels := @Quantity.not_ofStorage_of_pixels
  have hsize := @not_ofStorage_of_size e
  refine forall_error_bind hpixels fun x => forall_error_bind hpixels fun y => ?_
  unfold resolveAt
  split
  · intro reason h
    cases h
    exact nofun
  · intro reason h
    cases h
  · refine forall_error_bind not_ofStorage_of_symbology fun _ _ h => ?_
    cases h
  · refine forall_error_bind hsize fun _ => forall_error_bind hsize fun _ =>
      forall_error_bind hpixels fun _ _ h => ?_
    cases h
  · refine forall_error_bind hsize fun _ => forall_error_bind hpixels fun _ _ h => ?_
    cases h
  · refine forall_error_bind hsize fun _ => forall_error_bind hsize fun _ =>
      forall_error_bind hpixels fun _ _ h => ?_
    cases h
  · refine forall_error_bind not_ofStorage_of_source fun _ =>
      forall_error_bind not_ofStorage_of_imageName fun _ _ h => ?_
    cases h

end PlacedElement

namespace DesignConversion

variable {loading : Loading} {config : Text} {placed : List PlacedElement} {reason : Fault}

/-- The images that the conversion of a design hands to the label, until it ends. -/
def handed (loading : Loading) (placed : List PlacedElement) : List StoredImage :=
  match placed.mapM fun e => do return (e, ← resolution e) with
  | .ok elements =>
    handedOver loading.result loading.image?
      (ImagePlan.numbered 0 (ImagePlan.ofElements (resolved elements)))
  | .error _ => []

theorem isAccepted_of_image? {plan : Nat × ImagePlan} (hplan : plan ∈ plans placed)
    {image : StoredImage} (h : loading.image? plan = some image) : image.IsAccepted := by
  obtain ⟨number, plan⟩ := plan
  cases plan with
  | taken => cases h
  | load i source name =>
    obtain ⟨-, picture, -, -, data, hencode, rfl⟩ := Loading.image?_eq_some_iff.mp h
    obtain ⟨hnamed, hword⟩ := isWord_of_mem_plans hplan
    exact ⟨⟨hword, Picture.isHexadecimal_of_encode hencode⟩, hnamed⟩

theorem isAccepted_of_mem_handed {image : StoredImage} (h : image ∈ handed loading placed) :
    image.IsAccepted := by
  unfold handed at h
  split at h
  · next elements helements =>
    rw [resolved_eq helements] at h
    obtain ⟨plan, hplan, himage⟩ := exists_of_mem_handedOver h
    exact isAccepted_of_image? hplan himage
  · cases h

theorem image?_of_result {plan : Nat × ImagePlan} {result : ImageResult}
    (hplan : plan ∈ plans placed) (h : loading.result plan = .ok result) : result.image? = loading.image? plan := by
  obtain ⟨number, plan⟩ := plan
  cases plan with
  | taken =>
    cases h
    rfl
  | load i source name =>
    obtain ⟨outcome, hacquire, h⟩ := bind_eq_ok_iff.mp h
    cases h
    cases himage : loading.image? (number, .load i source name) with
    | some image =>
      have hmake := (isAccepted_of_image? hplan himage).make_eq
      rw [Loading.acquire_of_image? himage, hmake] at hacquire
      cases hacquire
      rfl
    | none =>
      cases Loading.acquired_of_acquire hacquire with
      | cancelled | refused => rfl
      | stored uncancelled found kept encoded made =>
        have hsome : ∃ data, loading.image? (number, .load i source name) = some ⟨name, data⟩ :=
          ⟨_, Loading.image?_eq_some_iff.mpr ⟨uncancelled, _, found, kept, _, encoded, rfl⟩⟩
        obtain ⟨data, hsome⟩ := hsome
        rw [himage] at hsome
        cases hsome

/-- A design that goes through has handed over the images of its label. -/
theorem images_eq_handed {d : DesignConversion} (h : (ofLoading loading config placed).2 = .ok d) :
    d.label.images = handed loading placed := by
  have hran := ran_of_ofLoading h
  have hall : handed loading placed = (plans placed).filterMap loading.image? := by
    unfold handed
    rw [hran.elements]
    dsimp only
    rw [resolved_eq hran.elements]
    exact handedOver_eq_filterMap hran.images
  rw [hall, label]
  exact filterMap_eq_of_mapM (fun plan hplan _ => image?_of_result hplan) hran.images

theorem not_ofStorage_of_result {plan : Nat × ImagePlan} (hplan : plan ∈ plans placed)
    (h : loading.result plan = .error reason) : ¬ reason.OfStorage := by
  obtain ⟨number, plan⟩ := plan
  cases plan with
  | taken => cases h
  | load i source name =>
    rcases bind_eq_error_iff.mp h with h | ⟨_, -, h⟩
    · cases himage : loading.image? (number, .load i source name) with
      | some image =>
        rw [Loading.acquire_of_image? himage] at h
        exact StoredImage.not_ofStorage (isAccepted_of_image? hplan himage) h
      | none => exact Loading.not_ofStorage_of_image?_none himage h
    · cases h

theorem not_ofStorage_of_ofLoading (h : (ofLoading loading config placed).2 = .error reason) :
    ¬ reason.OfStorage := by
  unfold ofLoading at h
  split at h
  · next found helements =>
    cases h
    obtain ⟨e, -, he⟩ := mapM_eq_error helements
    rcases bind_eq_error_iff.mp he with he | ⟨_, -, he⟩
    · exact PlacedElement.not_ofStorage_of_resolve reason (resolution_eq_error_iff.mp he).1
    · cases he
  · next elements helements =>
    rcases bind_eq_error_iff.mp h with h | ⟨images, -, h⟩
    · rw [Loading.acquireAll_results, resolved_eq helements] at h
      obtain ⟨plan, hplan, hresult⟩ := mapM_eq_error h
      exact not_ofStorage_of_result hplan hresult
    · rcases bind_eq_error_iff.mp h with h | ⟨_, -, h⟩
      · obtain ⟨⟨i, element⟩, -, hstep⟩ := mapM_eq_error h
        rcases bind_eq_error_iff.mp hstep with hstep | ⟨_, -, hstep⟩
        · unfold Element.outcome at hstep
          split at hstep
          · cases hstep
          · split at hstep
            · cases hstep
            · next found hrecord =>
              rw [Cause.eq_of_ofFault (map_eq_error_iff.mp hstep)]
              exact Figure.not_ofStorage_of_record found hrecord
        · cases hstep
      · cases h

end DesignConversion

/-! ## Both -/

/-- A run whose label accepts all images that are handed over: the call that stores one goes through
    on every label, the images of the label that the run ends with are these, and no fault of the
    run is that of a check of the storage. -/
structure NeverRefused (handed : List StoredImage) (run : Except Fault Label) : Prop where
  accepted : ∀ image ∈ handed, image.IsAccepted
  stored : ∀ image ∈ handed, ∀ label : Label,
    image.call.build label = .ok () { label with images := label.images ++ [image] }
  images : ∀ label, run = .ok label → label.images = handed
  fault : ∀ reason, run = .error reason → ¬ reason.OfStorage

/-- No image of a label text or of a design is refused by the label that it is handed to. -/
theorem never_refused :
    (∀ strictness config zpl, NeverRefused (Conversion.handed strictness zpl)
      ((Conversion.ofText strictness config zpl).map Conversion.label)) ∧
    ∀ loading config placed, NeverRefused (DesignConversion.handed loading placed)
      ((DesignConversion.ofLoading loading config placed).2.map DesignConversion.label) := by
  constructor
  · intro strictness config zpl
    refine ⟨fun image himage => Conversion.isAccepted_of_mem_handed himage,
      fun image himage => (Conversion.isAccepted_of_mem_handed himage).build_call, ?_, ?_⟩
    · intro label h
      obtain ⟨c, hc, rfl⟩ := map_eq_ok_iff.mp h
      exact Conversion.images_eq_handed hc
    · intro reason h
      exact Conversion.not_ofStorage_of_ofText (map_eq_error_iff.mp h)
  · intro loading config placed
    refine ⟨fun image himage => DesignConversion.isAccepted_of_mem_handed himage,
      fun image himage => (DesignConversion.isAccepted_of_mem_handed himage).build_call, ?_, ?_⟩
    · intro label h
      obtain ⟨d, hd, rfl⟩ := map_eq_ok_iff.mp h
      exact DesignConversion.images_eq_handed hd
    · intro reason h
      exact DesignConversion.not_ofStorage_of_ofLoading (map_eq_error_iff.mp h)

/-- A strict conversion has handed over the graphics before the corrupt one that ends it. -/
example : Conversion.handed .strict "~DGA,1,1,hf~DGB,1,1,G~DGC,1,1,0".toList =
    [⟨['A'], List.replicate 40 'F'⟩] := by decide +kernel

example : DesignConversion.handed DesignConversion.dotLoading DesignConversion.mixedDesign =
    [⟨['A'], ['8', '0']⟩, ⟨"IMG002".toList, ['8', '0']⟩] := by decide +kernel

end ThermalLabel
