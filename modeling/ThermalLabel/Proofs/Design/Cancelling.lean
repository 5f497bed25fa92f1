/-
  Cancellation cuts off a tail of the images.

  A design is converted twice with the same pictures: without cancellation, and with loading being
  cancelled during one call of the loader or before the first. Images that are to be loaded are
  numbered like the calls for them (`getElem?_calls`), so the calls of the cancelled course are the
  first ones of the other (`calls_cut`). An image is acquired as in the whole course, is the one
  under way, or is not asked for any more (`acquire_cut_eq`, `acquire_cut_current`,
  `acquire_cut_of_le`), and what is left of the design follows from that (`cancelled_cuts_tail`).
-/
import ThermalLabel.Proofs.Design.Comparing

namespace ThermalLabel

namespace Cancellation

/-- Cancellation during the call of the loader with a number, from 1; for 0 before the first. -/
def atCall : Nat → Cancellation
  | 0 => before
  | n + 1 => during (n + 1)

theorem after_atCall (n calls : Nat) : (atCall n).after calls = decide (n ≤ calls) := by
  cases n with
  | zero =>
    rw [decide_eq_true (Nat.zero_le calls)]
    rfl
  | succ n => rfl

end Cancellation

/-! ## One image -/

namespace Loading

/-- What becomes of an image hangs on whether it is cancelled, on its picture and on the
    threshold. -/
theorem acquire_congr {l other : Loading} {image : Nat} {source : Quantity} {name : Text}
    (hbefore : other.cancelledBefore image = l.cancelledBefore image)
    (hafter : other.cancelledAfter image = l.cancelledAfter image)
    (hthreshold : other.threshold = l.threshold)
    (hfind : other.find image source = l.find image source) :
    other.acquire image source name = l.acquire image source name := by
  unfold acquire store
  rw [hbefore, hafter, hthreshold, hfind]

theorem result_congr {l other : Loading} {image i : Nat} {source : Quantity} {name : Text}
    (h : other.acquire image source name = l.acquire image source name) :
    other.result (image, .load i source name) = l.result (image, .load i source name) := by
  rw [result_load, result_load, h]

/-- A course of loading without cancellation. -/
def whole (loader : Loader) (threshold : Quantity) : Loading :=
  ImageSettings.loading ⟨loader, threshold, .never⟩

/-- A course of loading that is cancelled during a call. -/
def cut (loader : Loader) (threshold : Quantity) (n : Nat) : Loading :=
  ImageSettings.loading ⟨loader, threshold, .atCall n⟩

variable {loader : Loader} {threshold : Quantity} {n image i : Nat} {source : Quantity}
  {name : Text} {outcome : ImageOutcome}

theorem cancelledBefore_cut (loader : Loader) (threshold : Quantity) (n image : Nat) :
    (cut loader threshold n).cancelledBefore image = decide (n ≤ image) :=
  Cancellation.after_atCall n image

theorem cancelledAfter_cut (loader : Loader) (threshold : Quantity) (n image : Nat) :
    (cut loader threshold n).cancelledAfter image = decide (n ≤ image + 1) :=
  Cancellation.after_atCall n (image + 1)

/-- Nothing changes for the images that are loaded before the call. -/
theorem acquire_cut_eq (h : image + 1 < n) :
    (cut loader threshold n).acquire image source name =
      (whole loader threshold).acquire image source name := by
  refine acquire_congr ?_ ?_ rfl rfl
  · rw [cancelledBefore_cut]
    exact decide_eq_false (by omega)
  · rw [cancelledAfter_cut]
    exact decide_eq_false (by omega)

/-- An image behind the call is not asked for. -/
theorem acquire_cut_of_le (h : n ≤ image) :
    (cut loader threshold n).acquire image source name = .ok (.skipped .cancelled) := by
  unfold acquire
  rw [cancelledBefore_cut, if_pos (decide_eq_true h)]

/-- Why an image is skipped during whose call loading is cancelled: a picture that comes too late is
    discarded, and one that cannot be had is reported as ever. -/
def callCause : Except LoadFault Picture → Cause
  | .ok _ => .cancelled
  | .error reason => .fault (.loading reason)

/-- The source of an image that is loaded without the run ending is a text, and the picture there is
    not one at which the loader fails. -/
theorem text_of_acquire_whole
    (h : (whole loader threshold).acquire image source name = .ok outcome) :
    ∃ t, source = .text t ∧ ∀ reason, loader t = .error reason →
      (Fault.loading reason).diagnosticKind? = some .resource := by
  unfold acquire at h
  rw [if_neg (by exact Bool.false_ne_true)] at h
  cases source with
  | text t =>
    refine ⟨t, rfl, fun reason hreason => ?_⟩
    have hfind : (whole loader threshold).find image (.text t) = .error (.loading reason) := by
      rw [find_text]
      exact congrArg (Except.mapError Fault.loading) hreason
    rw [hfind] at h
    obtain ⟨cause, hcause, -⟩ := map_eq_ok_iff.mp h
    have hkind := (Cause.ofFault_eq_ok_iff.mp hcause).1
    cases reason with
    | refused obstacle message => rfl
    | crashed failure => cases hkind
  | number | flag | missing => cases h

/-- The image of the call is discarded, or reported if it cannot be had. -/
theorem acquire_cut_current (hn : image + 1 = n)
    (h : (whole loader threshold).acquire image source name = .ok outcome) :
    ∃ t, source = .text t ∧
      (cut loader threshold n).acquire image source name = .ok (.skipped (callCause (loader t))) ∧
      (callCause (loader t)).kind = if (loader t).isOk then .cancelled else .resource := by
  obtain ⟨t, rfl, hkind⟩ := text_of_acquire_whole h
  have hbefore : (cut loader threshold n).cancelledBefore image = false := by
    rw [cancelledBefore_cut]
    exact decide_eq_false (by omega)
  have hafter : (cut loader threshold n).cancelledAfter image = true := by
    rw [cancelledAfter_cut]
    exact decide_eq_true (by omega)
  have hfind : (cut loader threshold n).find image (.text t) = (loader t).mapError .loading := rfl
  refine ⟨t, rfl, ?_⟩
  unfold acquire
  rw [if_neg (by simp [hbefore]), hfind]
  cases hanswer : loader t with
  | ok picture =>
    constructor
    · exact if_pos hafter
    · rfl
  | error reason =>
    have hskips := hkind reason hanswer
    constructor
    · show (Cause.ofFault (.loading reason)).map ImageOutcome.skipped = _
      rw [Cause.ofFault_eq_ok_iff.mpr ⟨by rw [hskips]; rfl, rfl⟩]
      rfl
    · show (Fault.loading reason).diagnosticKind?.getD .malformed = .resource
      rw [hskips]
      rfl

/-! ## The calls -/

/-- Without cancellation the images that are to be loaded are asked for one after the other, so that
    the number of an image is that of its call. -/
theorem getElem?_requests {number : Nat} {plans : List ImagePlan}
    (h : (number, .load i source name) ∈ ImagePlan.numbered image plans) :
    image ≤ number ∧
      ((ImagePlan.numbered image plans).filterMap
        (whole loader threshold).request?)[number - image]? = some (i, source) := by
  fun_induction ImagePlan.numbered image plans with
  | case1 => cases h
  | case2 image j other rest ih =>
    rcases List.mem_cons.mp h with h | h
    · cases h
    · exact ih h
  | case3 image j given other rest ih =>
    have hfirst : (whole loader threshold).request? (image, .load j given other) =
        some (j, given) := rfl
    rw [List.filterMap_cons_some hfirst]
    rcases List.mem_cons.mp h with h | h
    · cases h
      exact ⟨Nat.le_refl _, by rw [Nat.sub_self, List.getElem?_cons_zero]⟩
    · obtain ⟨hle, hrest⟩ := ih h
      have hnumber : number - image = number - (image + 1) + 1 := by omega
      refine ⟨by omega, ?_⟩
      rw [hnumber, List.getElem?_cons_succ]
      exact hrest

/-- The cancelled course asks for the first images of the whole one. -/
theorem requests_cut (n image : Nat) (plans : List ImagePlan) :
    (ImagePlan.numbered image plans).filterMap (cut loader threshold n).request? =
      ((ImagePlan.numbered image plans).filterMap
        (whole loader threshold).request?).take (n - image) := by
  fun_induction ImagePlan.numbered image plans with
  | case1 => simp
  | case2 image j other rest ih => exact ih
  | case3 image j given other rest ih =>
    have hwhole : (whole loader threshold).request? (image, .load j given other) =
        some (j, given) := rfl
    rw [List.filterMap_cons_some hwhole]
    by_cases hn : n ≤ image
    · have hcut : (cut loader threshold n).request? (image, .load j given other) = none := by
        rw [request?, cancelledBefore_cut, if_pos (decide_eq_true hn)]
      have hrest : n - (image + 1) = 0 := by omega
      rw [List.filterMap_cons_none hcut, ih, hrest, Nat.sub_eq_zero_of_le hn, List.take_zero,
        List.take_zero]
    · have hcut : (cut loader threshold n).request? (image, .load j given other) =
          some (j, given) := by
        rw [request?, cancelledBefore_cut, if_neg (by simpa using hn)]
      have hnumber : n - image = n - (image + 1) + 1 := by omega
      rw [List.filterMap_cons_some hcut, ih, hnumber, List.take_succ_cons]

end Loading

namespace DesignConversion

variable {loader : Loader} {threshold : Quantity} {n number i : Nat} {source : Quantity}
  {name : Text} {config : Text} {placed : List PlacedElement} {asked : List Quantity}
  {u c : DesignConversion}

theorem getElem?_calls (loader : Loader) (threshold : Quantity)
    (h : (number, .load i source name) ∈ plans placed) :
    (calls (.whole loader threshold) placed)[number]? = some (i, source) :=
  (Loading.getElem?_requests h).2

theorem calls_cut (loader : Loader) (threshold : Quantity) (n : Nat)
    (placed : List PlacedElement) :
    calls (.cut loader threshold n) placed = (calls (.whole loader threshold) placed).take n :=
  Loading.requests_cut n 0 _

/-- The call with a number is for the image with this number. -/
theorem plan_of_getElem?_calls {call : Nat × Quantity}
    (h : (calls (.whole loader threshold) placed)[number]? = some call) :
    ∃ name, (number, .load call.1 call.2 name) ∈ plans placed := by
  obtain ⟨found, name, hplan⟩ := mem_plans_of_mem_calls (List.mem_of_getElem? h)
  have hfound := getElem?_calls loader threshold hplan
  have hnumber : number = found := getElem?_key_inj (pairwise_calls _ placed) h hfound rfl
  exact ⟨name, hnumber ▸ hplan⟩

/-- The elements of the calls behind the first `m`. -/
def lateIndexes (loader : Loader) (threshold : Quantity) (placed : List PlacedElement) (m : Nat) :
    List Nat :=
  ((calls (.whole loader threshold) placed).drop m).map Prod.fst

theorem mem_lateIndexes_iff {m : Nat} (h : (number, .load i source name) ∈ plans placed) :
    i ∈ lateIndexes loader threshold placed m ↔ m ≤ number := by
  have hcall := getElem?_calls loader threshold h
  unfold lateIndexes
  constructor
  · intro hlate
    obtain ⟨call, hmem, hindex⟩ := List.mem_map.mp hlate
    obtain ⟨p, hp⟩ := List.mem_iff_getElem?.mp hmem
    rw [List.getElem?_drop] at hp
    have hnumber : number = m + p :=
      getElem?_key_inj (pairwise_calls _ placed) hcall hp hindex.symm
    omega
  · intro hle
    refine List.mem_map.mpr ⟨(i, source), List.mem_iff_getElem?.mpr ⟨number - m, ?_⟩, rfl⟩
    have hnumber : m + (number - m) = number := by omega
    rw [List.getElem?_drop, hnumber]
    exact hcall

/-! ## The whole design -/

/-- A design without the images of the calls from the `n`-th on, or of all calls for 0. Of these the
    first is discarded when its picture comes and reported as ever when it cannot be had, and the
    later ones are reported as cancelled. Every image has its name, and the other elements have all
    that they had. -/
structure CutOff (loader : Loader) (threshold : Quantity) (placed : List PlacedElement) (n : Nat)
    (u c : DesignConversion) : Prop where
  config : c.config = u.config
  wholeImages : u.label.images =
    (calls (.whole loader threshold) placed).filterMap fun call => u.imageOf? call.1
  images : c.label.images =
    ((calls (.whole loader threshold) placed).take (n - 1)).filterMap fun call =>
      u.imageOf? call.1
  wholeRecords : u.label.records = (List.range placed.length).filterMap u.recordOf?
  records : c.label.records = (List.range placed.length).filterMap fun i =>
    if i ∈ lateIndexes loader threshold placed (n - 1) then none else u.recordOf? i
  recalls : ∀ i ∈ lateIndexes loader threshold placed (n - 1), ∀ record,
    u.recordOf? i = some record →
    ∃ row column name, record = .recallImage row column name ∧ u.nameAt? i = some name
  names : ∀ i, c.nameAt? i = u.nameAt? i
  current : 0 < n → ∀ call, (calls (.whole loader threshold) placed)[n - 1]? = some call →
    ∃ source name cause, call.2 = .text source ∧ u.nameAt? call.1 = some name ∧
      c.reports call.1 = [⟨some call.1, name, cause⟩] ∧ cause = Loading.callCause (loader source) ∧
      cause.kind = if (loader source).isOk then .cancelled else .resource
  later : ∀ call ∈ (calls (.whole loader threshold) placed).drop n,
    ∃ name, u.nameAt? call.1 = some name ∧ c.reports call.1 = [⟨some call.1, name, .cancelled⟩]
  others : ∀ i < placed.length, i ∉ lateIndexes loader threshold placed (n - 1) → SameAt u c i

/-- With a cancellation there is a result for every image that there is one for without. -/
theorem exists_result_cut {plan : Nat × ImagePlan} {result : ImageResult}
    (h : (Loading.whole loader threshold).result plan = .ok result) :
    ∃ result, (Loading.cut loader threshold n).result plan = .ok result := by
  obtain ⟨number, plan⟩ := plan
  cases plan with
  | taken j name => exact ⟨_, rfl⟩
  | load j source name =>
    obtain ⟨outcome, hacquire, -⟩ := bind_eq_ok_iff.mp h
    have hcut : ∃ outcome, (Loading.cut loader threshold n).acquire number source name =
        .ok outcome := by
      rcases Nat.lt_trichotomy (number + 1) n with hlt | heq | hgt
      · exact ⟨outcome, (Loading.acquire_cut_eq hlt).trans hacquire⟩
      · obtain ⟨_, -, hcurrent, -⟩ := Loading.acquire_cut_current heq hacquire
        exact ⟨_, hcurrent⟩
      · exact ⟨_, Loading.acquire_cut_of_le (Nat.le_of_lt_succ hgt)⟩
    obtain ⟨outcome, hcut⟩ := hcut
    exact ⟨_, bind_eq_ok_iff.mpr ⟨outcome, hcut, rfl⟩⟩

section TwoCourses

variable (hu : Ran (.whole loader threshold) placed u) (hc : Ran (.cut loader threshold n) placed c)

/-- The images of a design are those of the elements that are asked for without cancellation. -/
theorem images_eq_calls {loading : Loading} {d : DesignConversion} (h : Ran loading placed d)
    (loader : Loader) (threshold : Quantity) :
    d.label.images =
      (calls (.whole loader threshold) placed).filterMap fun call => d.imageOf? call.1 := by
  have hbound : ∀ call ∈ calls (.whole loader threshold) placed, call.1 < placed.length := by
    intro call hcall
    obtain ⟨_, _, _, _, hat, -⟩ := exists_image_of_mem_calls hcall
    exact (List.getElem?_eq_some_iff.mp hat).1
  rw [h.images_eq, ← filterMap_range_find? (pairwise_calls _ placed) hbound]
  refine List.filterMap_congr fun i hi => ?_
  have hat := List.getElem?_eq_getElem (List.mem_range.mp hi)
  cases himage : d.imageOf? i with
  | none =>
    cases hfound : (calls (.whole loader threshold) placed).find? fun call => call.1 = i with
    | none => rfl
    | some call =>
      have hindex : call.1 = i :=
        ((find?_key_eq_some_iff (pairwise_calls _ placed)).mp hfound).2
      show none = d.imageOf? call.1
      rw [hindex, himage]
  | some image =>
    obtain ⟨_, _, source, _, number, -, hplan, -⟩ := (h.traced hat).keeps_of_image himage
    have hcall := List.mem_of_getElem? (getElem?_calls loader threshold hplan)
    have hfound := (find?_key_eq_some_iff (pairwise_calls _ placed)).mpr ⟨hcall, rfl⟩
    rw [hfound]
    exact himage.symm

include hu in
/-- An image from the call on is skipped. -/
theorem exists_skipped (hplan : (number, .load i source name) ∈ plans placed)
    (hlate : n - 1 ≤ number) :
    ∃ cause, (Loading.cut loader threshold n).acquire number source name =
      .ok (.skipped cause) := by
  by_cases hn : n ≤ number
  · exact ⟨.cancelled, Loading.acquire_cut_of_le hn⟩
  · obtain ⟨result, hresult⟩ := hu.exists_result hplan
    obtain ⟨outcome, hacquire, -⟩ := bind_eq_ok_iff.mp hresult
    obtain ⟨t, -, hcut, -⟩ := Loading.acquire_cut_current (n := n) (by omega) hacquire
    exact ⟨_, hcut⟩

include hu hc in
theorem none_of_late (hlate : i ∈ lateIndexes loader threshold placed (n - 1)) :
    c.imageOf? i = none ∧ c.recordOf? i = none := by
  obtain ⟨call, hcall, rfl⟩ := List.mem_map.mp hlate
  obtain ⟨number, name, hplan⟩ := mem_plans_of_mem_calls (List.mem_of_mem_drop hcall)
  have hnumber := (mem_lateIndexes_iff hplan).mp hlate
  obtain ⟨cause, hskipped⟩ := exists_skipped hu hplan hnumber
  exact (only_of_skipped hc hplan hskipped).2

include hu hc in
theorem sameAt_of_not_late (hi : i < placed.length)
    (hearly : i ∉ lateIndexes loader threshold placed (n - 1)) : SameAt u c i := by
  refine sameAt_of_result hu hc hi fun plan hplan => ?_
  obtain ⟨hmem, hindex⟩ := planAt?_eq_some_iff.mp hplan
  obtain ⟨number, plan⟩ := plan
  cases plan with
  | taken j name => rfl
  | load j source name =>
    obtain rfl : j = i := hindex
    rw [mem_lateIndexes_iff hmem] at hearly
    exact Loading.result_congr (Loading.acquire_cut_eq (by omega))

include hu hc in
theorem recordOf?_cut (hi : i < placed.length) :
    c.recordOf? i =
      if i ∈ lateIndexes loader threshold placed (n - 1) then none else u.recordOf? i := by
  split
  · next hlate => exact (none_of_late hu hc hlate).2
  · next hearly => exact (sameAt_of_not_late hu hc hi hearly).record

include hu hc in
theorem images_cut :
    c.label.images = ((calls (.whole loader threshold) placed).take (n - 1)).filterMap fun call =>
      u.imageOf? call.1 := by
  rw [images_eq_calls hc loader threshold]
  conv => lhs; rw [← List.take_append_drop (n - 1) (calls _ placed)]
  rw [List.filterMap_append]
  have hlate : ((calls (.whole loader threshold) placed).drop (n - 1)).filterMap
      (fun call => c.imageOf? call.1) = [] := by
    refine List.filterMap_eq_nil_iff.mpr fun call hcall => ?_
    exact (none_of_late hu hc (List.mem_map_of_mem hcall)).1
  rw [hlate, List.append_nil]
  refine List.filterMap_congr fun call hcall => ?_
  obtain ⟨p, hp⟩ := List.mem_iff_getElem?.mp hcall
  rw [List.getElem?_take] at hp
  split at hp
  · obtain ⟨name, hplan⟩ := plan_of_getElem?_calls hp
    obtain ⟨_, _, _, _, hat, -⟩ := resolve_of_mem_plans hplan
    refine (sameAt_of_not_late hu hc (List.getElem?_eq_some_iff.mp hat).1 ?_).image
    rw [mem_lateIndexes_iff hplan]
    omega
  · cases hp

include hu in
/-- What is recalled from the call on without cancellation are the images of these calls. -/
theorem recall_of_late (hlate : i ∈ lateIndexes loader threshold placed (n - 1)) {record : Record}
    (hrecord : u.recordOf? i = some record) :
    ∃ row column name, record = .recallImage row column name ∧ u.nameAt? i = some name := by
  obtain ⟨call, hcall, rfl⟩ := List.mem_map.mp hlate
  obtain ⟨e, x, y, given, hat, hresolve⟩ :=
    exists_image_of_mem_calls (List.mem_of_mem_drop hcall)
  obtain ⟨image, row, column, himage, hrecall⟩ :=
    (hu.traced hat).recall_of_resolve hresolve hrecord
  exact ⟨row, column, image.name, hrecall, nameAt?_of_imageOf? hu himage⟩

include hu in
theorem nameAt?_of_mem_plans (hplan : (number, .load i source name) ∈ plans placed) :
    u.nameAt? i = some name := by
  have hplanned : planAt? placed i = some (number, .load i source name) :=
    planAt?_eq_some_iff.mpr ⟨hplan, rfl⟩
  rw [hu.nameAt?_eq, hplanned]
  rfl

include hu hc in
theorem cutOff_of_ran (hconfig : c.config = u.config) : CutOff loader threshold placed n u c := by
  constructor
  case config => exact hconfig
  case wholeImages => exact images_eq_calls hu loader threshold
  case images => exact images_cut hu hc
  case wholeRecords => exact hu.records_eq
  case records =>
    rw [hc.records_eq]
    refine List.filterMap_congr fun i hi => ?_
    exact recordOf?_cut hu hc (List.mem_range.mp hi)
  case recalls => exact fun i hlate record => recall_of_late hu hlate
  case names =>
    intro i
    rw [hc.nameAt?_eq, hu.nameAt?_eq]
  case current =>
    intro hn call hcall
    obtain ⟨name, hplan⟩ := plan_of_getElem?_calls hcall
    obtain ⟨result, hresult⟩ := hu.exists_result hplan
    obtain ⟨outcome, hacquire, -⟩ := bind_eq_ok_iff.mp hresult
    obtain ⟨t, hsource, hcut, hkind⟩ := Loading.acquire_cut_current (n := n) (by omega) hacquire
    have hreports := (only_of_skipped hc hplan hcut).1
    exact ⟨t, name, _, hsource, nameAt?_of_mem_plans hu hplan, hreports, rfl, hkind⟩
  case later =>
    intro call hcall
    obtain ⟨p, hp⟩ := List.mem_iff_getElem?.mp hcall
    rw [List.getElem?_drop] at hp
    obtain ⟨name, hplan⟩ := plan_of_getElem?_calls hp
    have hcut : (Loading.cut loader threshold n).acquire (n + p) call.2 name =
        .ok (.skipped .cancelled) := Loading.acquire_cut_of_le (Nat.le_add_right n p)
    exact ⟨name, nameAt?_of_mem_plans hu hplan, (only_of_skipped hc hplan hcut).1⟩
  case others => exact fun i hi hearly => sameAt_of_not_late hu hc hi hearly

end TwoCourses

/-- A design that is converted without cancellation is converted with it too, whenever that comes:
    the images from the call on are missing, and nothing else is. -/
theorem cancelled_cuts_tail
    (h : ofElements ⟨loader, threshold, .never⟩ config placed = (asked, .ok u)) (n : Nat) :
    asked = (calls (.whole loader threshold) placed).map Prod.snd ∧
      ∃ c, ofElements ⟨loader, threshold, .atCall n⟩ config placed = (asked.take n, .ok c) ∧
        CutOff loader threshold placed n u c := by
  have hwhole : ofLoading (.whole loader threshold) config placed = (asked, .ok u) := h
  have hok : (ofLoading (.whole loader threshold) config placed).2 = .ok u :=
    congrArg Prod.snd hwhole
  have hu := ran_of_ofLoading hok
  have hasked : asked = (calls (.whole loader threshold) placed).map Prod.snd := by
    rw [← asked_eq hok, hwhole]
  refine ⟨hasked, ?_⟩
  obtain ⟨found, c, hcut⟩ : ∃ found c,
      ofLoading (.cut loader threshold n) config placed = (found, .ok c) := by
    refine exists_ofLoading_ok_of_results hwhole fun plan hplan result hresult => ?_
    exact exists_result_cut hresult
  have hcutOk : (ofLoading (.cut loader threshold n) config placed).2 = .ok c :=
    congrArg Prod.snd hcut
  have hfound : found = asked.take n := by
    have hcalls := asked_eq hcutOk
    rw [hcut, calls_cut, List.map_take, ← hasked] at hcalls
    exact hcalls
  have hconfig : c.config = u.config :=
    (ofLoading_eq_ok hcutOk).1.trans (ofLoading_eq_ok hok).1.symm
  refine ⟨c, ?_, cutOff_of_ran hu (ran_of_ofLoading hcutOk) hconfig⟩
  rw [← hfound]
  exact hcut

/-- A black dot at every source but one, whenever it is asked for. -/
def dotLoader : Loader := dotLoading.loader 0

theorem cancelled_cuts_tail_of_mixedDesign :
    ∃ u c, ofElements ⟨dotLoader, Threshold.default, .never⟩ Label.defaultConfig mixedDesign =
        ([.text ['a'], .text ['b'], .text ['c']], .ok u) ∧
      ofElements ⟨dotLoader, Threshold.default, .atCall 2⟩ Label.defaultConfig mixedDesign =
        ([.text ['a'], .text ['b']], .ok c) ∧
      c.diagnostics.map Diagnostic.kind =
        [.unsupported, .malformed, .resource, .cancelled, .malformed] ∧
      CutOff dotLoader Threshold.default mixedDesign 2 u c := by
  have hasked : (ofElements ⟨dotLoader, Threshold.default, .never⟩ Label.defaultConfig
      mixedDesign).1 = [.text ['a'], .text ['b'], .text ['c']] := by decide +kernel
  obtain ⟨u, hu⟩ : ∃ u, (ofElements ⟨dotLoader, Threshold.default, .never⟩ Label.defaultConfig
      mixedDesign).2 = .ok u := exists_of_isOk (by decide +kernel)
  have hwhole : ofElements ⟨dotLoader, Threshold.default, .never⟩ Label.defaultConfig mixedDesign =
      ([.text ['a'], .text ['b'], .text ['c']], .ok u) := Prod.ext hasked hu
  obtain ⟨-, c, hcut, hcutOff⟩ := cancelled_cuts_tail hwhole 2
  have hkinds : (ofElements ⟨dotLoader, Threshold.default, .atCall 2⟩ Label.defaultConfig
      mixedDesign).2.map (fun c => c.diagnostics.map Diagnostic.kind) =
      .ok [.unsupported, .malformed, .resource, .cancelled, .malformed] := by decide +kernel
  rw [hcut] at hkinds
  exact ⟨u, c, hwhole, hcut, Except.ok.inj hkinds, hcutOff⟩

end DesignConversion

end ThermalLabel
