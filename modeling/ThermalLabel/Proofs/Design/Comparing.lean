/-
  One design in two courses of image loading.

  What is planned for an image hangs on the design alone (`planAt?`), and what becomes of it on the
  plan and the course of loading (`resultAt?_eq`). So an image has the same name in every course
  (`nameAt?_eq`), and an element for which two courses have the same result has the same reports,
  image and record in both (`sameAt_of_resultAt?`). An image that is skipped has its report and
  nothing else (`only_of_skipped`).
-/
import ThermalLabel.Proofs.Design.Completion
import ThermalLabel.Proofs.Design.Pictures

namespace ThermalLabel

namespace DesignConversion

variable {loading other : Loading} {config : Text} {placed : List PlacedElement}
  {asked : List Quantity} {d u c : DesignConversion}

/-! ## Results by index -/

/-- What is planned for the image of the element with an index, and its number. -/
def planAt? (placed : List PlacedElement) (i : Nat) : Option (Nat × ImagePlan) :=
  (plans placed).find? fun plan => plan.2.index = i

theorem planAt?_eq_some_iff {i : Nat} {plan : Nat × ImagePlan} :
    planAt? placed i = some plan ↔ plan ∈ plans placed ∧ plan.2.index = i :=
  find?_key_eq_some_iff (pairwise_plans placed)

namespace Ran

/-- The result at an index is that of what is planned there. -/
theorem resultAt?_eq (h : Ran loading placed d) (i : Nat) :
    d.resultAt? i = (planAt? placed i).bind fun plan => (loading.result plan).toOption := by
  unfold resultAt? planAt?
  exact find?_of_mapM (fun _ _ hresult => (Loading.result_names hresult).1) h.images i

theorem exists_result (h : Ran loading placed d) {plan : Nat × ImagePlan}
    (hplan : plan ∈ plans placed) : ∃ result, loading.result plan = .ok result :=
  exists_mapM_ok_iff.mp ⟨d.images, h.images⟩ plan hplan

/-- An image has the name that is planned for it. -/
theorem nameAt?_eq (h : Ran loading placed d) (i : Nat) :
    d.nameAt? i = (planAt? placed i).map fun plan => plan.2.name := by
  rw [nameAt?, h.resultAt?_eq]
  cases hplan : planAt? placed i with
  | none => rfl
  | some plan =>
    obtain ⟨result, hresult⟩ := h.exists_result (planAt?_eq_some_iff.mp hplan).1
    have hname : result.name = plan.2.name := (Loading.result_names hresult).2
    show (loading.result plan).toOption.map ImageResult.name = some plan.2.name
    rw [hresult, ← hname]
    rfl

end Ran

/-! ## One element in two courses -/

/-- The element with an index has the same diagnostics, image and record in two conversions. -/
structure SameAt (u c : DesignConversion) (i : Nat) : Prop where
  reports : c.reports i = u.reports i
  image : c.imageOf? i = u.imageOf? i
  record : c.recordOf? i = u.recordOf? i

/-- What an element comes to hangs on the result of its image alone. -/
theorem sameAt_of_resultAt? (hu : Ran loading placed u) (hc : Ran other placed c) {i : Nat}
    (hi : i < placed.length) (hsame : c.resultAt? i = u.resultAt? i) : SameAt u c i := by
  have hat := List.getElem?_eq_getElem hi
  have hresolution : c.resolutionReport? i = u.resolutionReport? i := by
    rw [hc.resolutionReport?_eq hat, hu.resolutionReport?_eq hat]
  have hreport : c.imageReport? i = u.imageReport? i := by
    rw [imageReport?, imageReport?, hsame]
  have himage : c.imageOf? i = u.imageOf? i := by
    rw [imageOf?, imageOf?, hsame]
  have hlayout : c.layoutAt? i = u.layoutAt? i := by
    cases hresolve : placed[i].resolve with
    | error reason =>
      rw [hc.layoutAt?_eq_none hat hresolve, hu.layoutAt?_eq_none hat hresolve]
    | ok element =>
      obtain ⟨result, hresult, hfound⟩ := hu.layoutAt?_of_resolve hat hresolve
      obtain ⟨result', hresult', hfound'⟩ := hc.layoutAt?_of_resolve hat hresolve
      rw [himage, hresult] at hresult'
      cases hresult'
      rw [hfound, hfound']
  refine ⟨?_, himage, ?_⟩
  · rw [hc.reports_eq hi, hu.reports_eq hi]
    unfold traceAt Trace.reports
    dsimp only
    rw [hresolution, hreport, layoutReport?, layoutReport?, hlayout]
  · rw [recordOf?, recordOf?, hlayout]

/-- Two courses with the same result for what is planned at an index come to the same there. -/
theorem sameAt_of_result (hu : Ran loading placed u) (hc : Ran other placed c) {i : Nat}
    (hi : i < placed.length)
    (hsame : ∀ plan, planAt? placed i = some plan → other.result plan = loading.result plan) :
    SameAt u c i := by
  refine sameAt_of_resultAt? hu hc hi ?_
  rw [hc.resultAt?_eq, hu.resultAt?_eq]
  cases hplan : planAt? placed i with
  | none => rfl
  | some plan => exact congrArg Except.toOption (hsame plan hplan)

/-- An image that is skipped has its report and nothing else. -/
theorem only_of_skipped (h : Ran loading placed d) {number i : Nat} {source : Quantity}
    {name : Text} {cause : Cause} (hplan : (number, .load i source name) ∈ plans placed)
    (hskipped : loading.acquire number source name = .ok (.skipped cause)) :
    d.reports i = [⟨some i, name, cause⟩] ∧ d.imageOf? i = none ∧ d.recordOf? i = none := by
  obtain ⟨e, x, y, given, hat, -⟩ := resolve_of_mem_plans hplan
  have hplanned : planAt? placed i = some (number, .load i source name) :=
    planAt?_eq_some_iff.mpr ⟨hplan, rfl⟩
  have hfound : d.resultAt? i = some ⟨i, name, .skipped cause⟩ := by
    rw [h.resultAt?_eq, hplanned, Option.bind_some, Loading.result, hskipped]
    rfl
  have hreport : d.imageReport? i = some ⟨some i, name, cause⟩ := by
    rw [imageReport?, hfound]
    rfl
  rw [h.reports_eq (List.getElem?_eq_some_iff.mp hat).1]
  exact (h.traced hat).only_of_loading hreport

/-- Where one course of loading has a result for every image of a design that is converted, the
    design is converted in this course too. -/
theorem exists_ofLoading_ok_of_results (h : ofLoading loading config placed = (asked, .ok u))
    (hresults : ∀ plan ∈ plans placed, ∀ result, loading.result plan = .ok result →
      ∃ result, other.result plan = .ok result) :
    ∃ asked c, ofLoading other config placed = (asked, .ok c) := by
  have hok : (ofLoading loading config placed).2 = .ok u := congrArg Prod.snd h
  have hran := ran_of_ofLoading hok
  have himages : ∃ images, (plans placed).mapM other.result = .ok images := by
    rw [exists_mapM_ok_iff]
    intro plan hplan
    obtain ⟨result, hresult⟩ := hran.exists_result hplan
    exact hresults plan hplan result hresult
  obtain ⟨images, himages⟩ := himages
  exact exists_ofLoading_ok_of_images hran.elements himages

end DesignConversion

end ThermalLabel
