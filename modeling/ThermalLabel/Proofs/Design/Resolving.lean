/-
  The placed elements of a design: what they are resolved to and which images are among them.

  The first pass leaves the elements that are resolved, with the indexes of the placed ones
  (`resolved_eq`). The images among them are planned by their places alone (`plans_getElem?`), and
  an image asks for its source at most once, in the order of the elements (`pairwise_calls`).
-/
import ThermalLabel.Proofs.Design.Loading
import ThermalLabel.Proofs.Design.Naming
import ThermalLabel.Proofs.Indexed

namespace ThermalLabel

/-! ## Elements -/

namespace PlacedElement

/-- The placed elements that are resolved, by index. -/
def resolveAll (placed : List PlacedElement) : List (Nat × Element) :=
  placed.zipIdx.filterMap fun e => e.1.resolve.toOption.map fun element => (e.2, element)

theorem mem_resolveAll_iff {placed : List PlacedElement} {i : Nat} {element : Element} :
    (i, element) ∈ resolveAll placed ↔ ∃ e, placed[i]? = some e ∧ e.resolve = .ok element := by
  unfold resolveAll
  rw [List.mem_filterMap]
  constructor
  · rintro ⟨⟨e, j⟩, hindexed, h⟩
    obtain ⟨made, hmade, hpair⟩ := Option.map_eq_some_iff.mp h
    cases hpair
    exact ⟨e, List.mk_mem_zipIdx_iff_getElem?.mp hindexed, toOption_eq_some_iff.mp hmade⟩
  · rintro ⟨e, hat, hresolve⟩
    refine ⟨(e, i), List.mk_mem_zipIdx_iff_getElem?.mpr hat, ?_⟩
    exact Option.map_eq_some_iff.mpr ⟨element, toOption_eq_some_iff.mpr hresolve, rfl⟩

theorem pairwise_resolveAll (placed : List PlacedElement) :
    (resolveAll placed).Pairwise fun a b => a.1 < b.1 := by
  refine (pairwise_zipIdx placed).filterMap _ fun a b hab x hx y hy => ?_
  obtain ⟨_, -, rfl⟩ := Option.map_eq_some_iff.mp hx
  obtain ⟨_, -, rfl⟩ := Option.map_eq_some_iff.mp hy
  exact hab

theorem lt_length_of_mem_resolveAll {placed : List PlacedElement} {e : Nat × Element}
    (h : e ∈ resolveAll placed) : e.1 < placed.length := by
  obtain ⟨_, hat, -⟩ := mem_resolveAll_iff.mp h
  exact (List.getElem?_eq_some_iff.mp hat).1

variable {e : PlacedElement} {element : Element}

/-- What has the tag of an image is resolved to one. -/
theorem image_of_tag (htag : ElementKind.ofTag? e.tag = some .image)
    (h : e.resolve = .ok element) : ∃ x y source given, element = .image x y source given := by
  obtain ⟨x, -, h⟩ := bind_eq_ok_iff.mp h
  obtain ⟨y, -, h⟩ := bind_eq_ok_iff.mp h
  unfold resolveAt at h
  rw [htag] at h
  obtain ⟨source, -, h⟩ := bind_eq_ok_iff.mp h
  obtain ⟨given, -, h⟩ := bind_eq_ok_iff.mp h
  cases h
  exact ⟨x, y, source, given, rfl⟩

/-- An image has the source and the name that are read from its attributes. -/
theorem read_of_image {x y : Binary64} {source : Quantity} {given : Option Text}
    (h : e.resolve = .ok (.image x y source given)) :
    e.source = .ok source ∧ e.imageName = .ok given := by
  obtain ⟨_, -, h⟩ := bind_eq_ok_iff.mp h
  obtain ⟨_, -, h⟩ := bind_eq_ok_iff.mp h
  unfold resolveAt at h
  cases hkind : ElementKind.ofTag? e.tag with
  | none =>
    rw [hkind] at h
    cases h
  | some kind =>
    rw [hkind] at h
    cases kind with
    | text => cases h
    | barcode =>
      obtain ⟨_, -, h⟩ := bind_eq_ok_iff.mp h
      cases h
    | box | line =>
      obtain ⟨_, -, h⟩ := bind_eq_ok_iff.mp h
      obtain ⟨_, -, h⟩ := bind_eq_ok_iff.mp h
      obtain ⟨_, -, h⟩ := bind_eq_ok_iff.mp h
      cases h
    | circle =>
      obtain ⟨_, -, h⟩ := bind_eq_ok_iff.mp h
      obtain ⟨_, -, h⟩ := bind_eq_ok_iff.mp h
      cases h
    | image =>
      obtain ⟨found, hsource, h⟩ := bind_eq_ok_iff.mp h
      obtain ⟨name, hname, h⟩ := bind_eq_ok_iff.mp h
      cases h
      exact ⟨hsource, hname⟩

end PlacedElement

/-! ## Images -/

namespace PlacedElement

/-- The images among placed elements. -/
def images (placed : List PlacedElement) : List ImageRequest :=
  ImagePlan.requests (resolveAll placed)

/-- The names that are given to images among placed elements. -/
def imageNames (placed : List PlacedElement) : List Text :=
  ImagePlan.givenNames (resolveAll placed)

theorem imageNames_eq (placed : List PlacedElement) :
    imageNames placed = (images placed).filterMap ImageRequest.given :=
  ImagePlan.givenNames_eq _

theorem mem_images_iff {placed : List PlacedElement} {r : ImageRequest} :
    r ∈ images placed ↔
      ∃ e x y, placed[r.index]? = some e ∧ e.resolve = .ok (.image x y r.source r.given) := by
  unfold images ImagePlan.requests
  rw [List.mem_filterMap]
  constructor
  · rintro ⟨⟨i, element⟩, hmem, h⟩
    cases element with
    | text | barcode | box | circle | line => cases h
    | image x y source given =>
      cases h
      obtain ⟨e, hat, hresolve⟩ := mem_resolveAll_iff.mp hmem
      exact ⟨e, x, y, hat, hresolve⟩
  · rintro ⟨e, x, y, hat, hresolve⟩
    exact ⟨_, mem_resolveAll_iff.mpr ⟨e, hat, hresolve⟩, rfl⟩

theorem pairwise_images (placed : List PlacedElement) :
    (images placed).Pairwise fun a b => a.index < b.index := by
  refine (pairwise_resolveAll placed).filterMap _ fun a b hab r hr s hs => ?_
  have hindex : ∀ (e : Nat × Element) r, ImagePlan.request? e = some r → r.index = e.1 := by
    rintro ⟨i, element⟩ r h
    cases element with
    | text | barcode | box | circle | line => cases h
    | image =>
      cases h
      rfl
  rw [hindex a r hr, hindex b s hs]
  exact hab

end PlacedElement

namespace DesignConversion

/-! ## Resolutions -/

variable {loading : Loading} {placed : List PlacedElement}

theorem resolution_eq_ok {e : PlacedElement} {result : Except Cause Element}
    (h : resolution e = .ok result) :
    (∃ element, e.resolve = .ok element ∧ result = .ok element) ∨
      ∃ reason, e.resolve = .error reason ∧ result = .error (.fault reason) := by
  unfold resolution at h
  split at h
  · next element hresolve =>
    cases h
    exact .inl ⟨element, hresolve, rfl⟩
  · next reason hresolve =>
    obtain ⟨cause, hcause, rfl⟩ := map_eq_ok_iff.mp h
    obtain ⟨-, rfl⟩ := Cause.ofFault_eq_ok_iff.mp hcause
    exact .inr ⟨reason, hresolve, rfl⟩

section Resolutions

variable {elements : List (PlacedElement × Except Cause Element)}

/-- The elements of a design are the placed ones with their resolutions. -/
theorem elements_getElem?
    (h : placed.mapM (fun e => do return (e, ← resolution e)) = .ok elements) :
    elements.length = placed.length ∧
      ∀ (i : Nat) e, placed[i]? = some e →
        ∃ result, resolution e = .ok result ∧ elements[i]? = some (e, result) := by
  obtain ⟨hlength, hitems⟩ := mapM_getElem? h
  refine ⟨hlength, fun i e he => ?_⟩
  obtain ⟨pair, hpair, hat⟩ := hitems i e he
  obtain ⟨result, hresult, hpair⟩ := bind_eq_ok_iff.mp hpair
  cases hpair
  exact ⟨result, hresult, hat⟩

theorem resolved_eq (h : placed.mapM (fun e => do return (e, ← resolution e)) = .ok elements) :
    resolved elements = PlacedElement.resolveAll placed := by
  obtain ⟨hlength, hitems⟩ := elements_getElem? h
  have hresolved := filterMap_range_bind elements fun i e =>
    e.2.toOption.map fun element => (i, element)
  have hplaced := filterMap_range_bind placed fun i e =>
    e.resolve.toOption.map fun element => (i, element)
  unfold resolved PlacedElement.resolveAll
  rw [← hresolved, ← hplaced, hlength]
  refine List.filterMap_congr fun i hi => ?_
  have hat := List.getElem?_eq_getElem (List.mem_range.mp hi)
  obtain ⟨result, hresult, hindexed⟩ := hitems i _ hat
  rw [hat, hindexed]
  rcases resolution_eq_ok hresult with ⟨element, hresolve, rfl⟩ | ⟨reason, hresolve, rfl⟩
  · rw [Option.bind_some, Option.bind_some, hresolve]
    rfl
  · rw [Option.bind_some, Option.bind_some, hresolve]
    rfl

end Resolutions

/-! ## Plans and calls of the loader -/

/-- The images of placed elements as they are planned, with their numbers. -/
def plans (placed : List PlacedElement) : List (Nat × ImagePlan) :=
  ImagePlan.numbered 0 (ImagePlan.ofElements (PlacedElement.resolveAll placed))

/-- What is planned for an image before which `p` images stand. -/
noncomputable def planOf (placed : List PlacedElement) (p : Nat) (r : ImageRequest) : ImagePlan :=
  ImagePlan.planned (PlacedElement.imageNames placed) ((PlacedElement.images placed).take p) r

/-- The elements that ask for a picture in a course of loading, each with the source it asks for. -/
def calls (loading : Loading) (placed : List PlacedElement) : List (Nat × Quantity) :=
  (plans placed).filterMap loading.request?

theorem index_planOf (placed : List PlacedElement) (p : Nat) (r : ImageRequest) :
    (planOf placed p r).index = r.index :=
  ImagePlan.index_planned _ _ r

theorem plans_getElem? (placed : List PlacedElement) (p : Nat) :
    (plans placed)[p]?.map Prod.snd = (PlacedElement.images placed)[p]?.map (planOf placed p) := by
  have hplanned := ImagePlan.ofElements_getElem? (PlacedElement.resolveAll placed) p
  rw [← ImagePlan.map_snd_numbered 0 (ImagePlan.ofElements _), List.getElem?_map] at hplanned
  exact hplanned

theorem map_index_plans (placed : List PlacedElement) :
    (plans placed).map (fun plan => plan.2.index) =
      (PlacedElement.images placed).map ImageRequest.index := by
  have hindexes := ImagePlan.map_index_ofElements (PlacedElement.resolveAll placed)
  rw [← ImagePlan.map_snd_numbered 0 (ImagePlan.ofElements _), List.map_map] at hindexes
  exact hindexes

theorem pairwise_plans (placed : List PlacedElement) :
    (plans placed).Pairwise fun a b => a.2.index < b.2.index := by
  rw [← List.pairwise_map, map_index_plans, List.pairwise_map]
  exact PlacedElement.pairwise_images placed

theorem mem_plans_of_mem_calls {call : Nat × Quantity} (h : call ∈ calls loading placed) :
    ∃ number name, (number, .load call.1 call.2 name) ∈ plans placed := by
  obtain ⟨⟨number, plan⟩, hmem, hcall⟩ := List.mem_filterMap.mp h
  obtain ⟨-, name, rfl⟩ := Loading.request?_eq_some_iff.mp hcall
  exact ⟨number, name, hmem⟩

theorem exists_image_of_mem_plans {number : Nat} {plan : ImagePlan}
    (h : (number, plan) ∈ plans placed) :
    ∃ p r, (PlacedElement.images placed)[p]? = some r ∧ plan = planOf placed p r := by
  obtain ⟨p, hp⟩ := List.mem_iff_getElem?.mp h
  have hplanned := plans_getElem? placed p
  rw [hp, Option.map_some, eq_comm, Option.map_eq_some_iff] at hplanned
  obtain ⟨r, hr, hplan⟩ := hplanned
  exact ⟨p, r, hr, hplan.symm⟩

/-- An image that is to be loaded is an element with its source. -/
theorem resolve_of_mem_plans {number i : Nat} {source : Quantity} {name : Text}
    (h : (number, .load i source name) ∈ plans placed) :
    ∃ e x y given, placed[i]? = some e ∧ e.resolve = .ok (.image x y source given) := by
  obtain ⟨p, r, hr, hplan⟩ := exists_image_of_mem_plans h
  obtain ⟨e, x, y, hat, hresolve⟩ := PlacedElement.mem_images_iff.mp (List.mem_of_getElem? hr)
  have hindex := congrArg ImagePlan.index hplan
  rw [index_planOf] at hindex
  have hsource := ImagePlan.source_planned hplan.symm
  rw [hsource]
  exact ⟨e, x, y, r.given, (congrArg (placed[·]?) hindex).trans hat, hresolve⟩

theorem exists_image_of_mem_calls {call : Nat × Quantity} (h : call ∈ calls loading placed) :
    ∃ e x y given, placed[call.1]? = some e ∧ e.resolve = .ok (.image x y call.2 given) := by
  obtain ⟨number, name, hmem⟩ := mem_plans_of_mem_calls h
  exact resolve_of_mem_plans hmem

theorem pairwise_calls (loading : Loading) (placed : List PlacedElement) :
    (calls loading placed).Pairwise fun a b => a.1 < b.1 := by
  have hindex : ∀ plan call, loading.request? plan = some call → call.1 = plan.2.index := by
    rintro ⟨number, plan⟩ ⟨i, source⟩ h
    obtain ⟨-, name, rfl⟩ := Loading.request?_eq_some_iff.mp h
    rfl
  refine (pairwise_plans placed).filterMap _ fun a b hab call hcall other hother => ?_
  rw [hindex a call hcall, hindex b other hother]
  exact hab

end DesignConversion

end ThermalLabel
