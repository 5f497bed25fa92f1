/-
  The conversion of a design as a course of calls.

  Told step by step, a design is resolved, its images are named, loaded and stored in one loop, and
  the elements are drawn. The loop keeps the names that are used up, the number that was given out
  last and the number of images that were to be loaded; it is the plan of the names followed by the
  acquisition of the images (`Loading.run_draftAll`), although it names an image only when those
  before it are loaded. The whole course ends with the label and the diagnostics of the outcomes
  (`run_draft`).
-/
import ThermalLabel.Proofs.Design.Loading
import ThermalLabel.Proofs.Design.Naming
import ThermalLabel.Proofs.Drafting

namespace ThermalLabel

namespace Drafting

variable {α β : Type} {draft next : Draft}

/-- The end of a course, without the draft of a course that fails. -/
def run (course : Drafting α) (draft : Draft) : Except Fault (α × Draft) :=
  match course draft with
  | .ok a next => .ok (a, next)
  | .error reason _ => .error reason

theorem run_of_ok {course : Drafting α} {a : α} (h : course draft = .ok a next) :
    run course draft = .ok (a, next) := by
  unfold run
  rw [h]

theorem run_of_error {course : Drafting α} {reason : Fault}
    (h : course draft = .error reason next) : run course draft = .error reason := by
  unfold run
  rw [h]

@[simp]
theorem run_pure (a : α) (draft : Draft) : run (pure a) draft = .ok (a, draft) := rfl

@[simp]
theorem run_bind (course : Drafting α) (rest : α → Drafting β) (draft : Draft) :
    run (course >>= rest) draft = run course draft >>= fun r => run (rest r.1) r.2 := by
  cases h : course draft with
  | ok a next =>
    rw [run_of_ok h, ok_bind]
    unfold run
    rw [bind_of_ok h]
  | error reason next =>
    rw [run_of_error h, run_of_error (bind_of_error h)]
    rfl

@[simp]
theorem run_report (d : Diagnostic) (draft : Draft) :
    run (report d) draft = .ok ((), draft.extend [] [] [d]) :=
  run_of_ok (report_eq d draft)

theorem run_reporting_of_error {reason : Fault} {step : Drafting α} (index : Nat) (source : Text)
    (otherwise : α) (h : step draft = .error reason next) :
    run (reporting index source otherwise step) draft =
      (Cause.ofFault reason).map fun cause =>
        (otherwise, next.extend [] [] [⟨some index, source, cause⟩]) := by
  have hcaught := reporting_of_error index source otherwise h
  cases hcause : Cause.ofFault reason with
  | ok cause =>
    rw [hcause] at hcaught
    exact run_of_ok hcaught
  | error found =>
    rw [hcause] at hcaught
    exact run_of_error hcaught

/-- A value that was had or is reported missing. -/
def expect (index : Nat) (source : Text) (x : Except Fault α) : Drafting (Option α) :=
  reporting index source none (some <$> MonadExcept.ofExcept x)

theorem run_expect (index : Nat) (source : Text) (x : Except Fault α) (draft : Draft) :
    run (expect index source x) draft =
      match x with
      | .ok a => .ok (some a, draft)
      | .error reason =>
        (Cause.ofFault reason).map fun cause =>
          (none, draft.extend [] [] [⟨some index, source, cause⟩]) := by
  unfold expect
  cases x with
  | ok a => exact run_of_ok (reporting_of_ok _ _ _ rfl)
  | error reason => exact run_reporting_of_error index source none rfl

end Drafting

open Drafting

/-! ## Resolution -/

namespace PlacedElement

/-- Resolves placed elements one after the other. -/
def draftAll : (index : Nat) → List PlacedElement → Drafting (List (Nat × Element))
  | _, [] => return []
  | index, e :: later => do
    let element ← expect index e.tag e.resolve
    let others ← draftAll (index + 1) later
    return (element.map fun element => (index, element)).toList ++ others

end PlacedElement

namespace DesignConversion

theorem run_resolution (e : PlacedElement) (index : Nat) (draft : Draft) :
    run (expect index e.tag e.resolve) draft =
      (resolution e).map fun found =>
        (found.toOption, draft.extend [] [] (resolutionDiagnostic? index (e, found)).toList) := by
  rw [run_expect]
  unfold resolution
  cases e.resolve with
  | ok element => simp [resolutionDiagnostic?, Except.toOption]
  | error reason =>
    dsimp only
    cases Cause.ofFault reason with
    | ok cause => rfl
    | error found => rfl

/-- The elements that were resolved, counted from an index. -/
def resolvedFrom (index : Nat) (elements : List (PlacedElement × Except Cause Element)) :
    List (Nat × Element) :=
  (elements.zipIdx index).filterMap fun e => e.1.2.toOption.map fun element => (e.2, element)

/-- The diagnostics of the elements that were not, counted from an index. -/
def unresolvedFrom (index : Nat) (elements : List (PlacedElement × Except Cause Element)) :
    List Diagnostic :=
  (elements.zipIdx index).filterMap fun e => resolutionDiagnostic? e.2 e.1

theorem resolved_eq_resolvedFrom (elements : List (PlacedElement × Except Cause Element)) :
    resolved elements = resolvedFrom 0 elements := rfl

theorem resolvedFrom_cons (index : Nat) (e : PlacedElement) (found : Except Cause Element)
    (elements : List (PlacedElement × Except Cause Element)) :
    resolvedFrom index ((e, found) :: elements) =
      (found.toOption.map fun element => (index, element)).toList ++
        resolvedFrom (index + 1) elements :=
  filterMap_cons_toList _ _ _

theorem unresolvedFrom_cons (index : Nat) (e : PlacedElement × Except Cause Element)
    (elements : List (PlacedElement × Except Cause Element)) :
    unresolvedFrom index (e :: elements) =
      (resolutionDiagnostic? index e).toList ++ unresolvedFrom (index + 1) elements :=
  filterMap_cons_toList _ _ _

theorem run_resolutions (placed : List PlacedElement) (index : Nat) (draft : Draft) :
    run (PlacedElement.draftAll index placed) draft =
      (placed.mapM fun e => do return (e, ← resolution e)).map fun elements =>
        (resolvedFrom index elements, draft.extend [] [] (unresolvedFrom index elements)) := by
  induction placed generalizing index draft with
  | nil => simp [PlacedElement.draftAll, resolvedFrom, unresolvedFrom]
  | cons e later ih =>
    rw [PlacedElement.draftAll, run_bind, run_resolution, List.mapM_cons]
    cases resolution e with
    | error reason => rfl
    | ok found =>
      simp only [ok_map, ok_bind, run_bind, ih]
      cases later.mapM fun e => do return (e, ← resolution e) with
      | error reason => rfl
      | ok elements =>
        simp [resolvedFrom_cons, unresolvedFrom_cons]

end DesignConversion

/-! ## Images -/

namespace Loading

variable {l : Loading} {image index : Nat} {source : Quantity} {name : Text}

/-- Loads an image and stores it under its name, which is given back if that is done. -/
def keep (l : Loading) (image index : Nat) (source : Quantity) (name : Text) :
    Drafting (Option Text) := do
  if l.cancelledBefore image then
    report ⟨some index, name, .cancelled⟩
    return none
  else
    match ← expect index name (l.find image source) with
    | none => return none
    | some picture =>
      if l.cancelledAfter image then
        report ⟨some index, name, .cancelled⟩
        return none
      else
        match ← expect index name (picture.encode l.threshold) with
        | none => return none
        | some data =>
          call (.ofRequest (.store name data))
          return some name

/-- Names, loads and stores the images among elements one after the other, and gives the names under
    which they are stored, by the indexes of their elements. The names `used` are used up, `last` is
    the number that was given out last, and `image` images were to be loaded before. -/
def draftAll (l : Loading) (given : List Text) : (used : List Text) → (last image : Nat) →
    List (Nat × Element) → Drafting (List (Nat × Text))
  | _, _, _, [] => return []
  | used, last, image, (index, .image _ _ source (some name)) :: later =>
    if name ∈ used then do
      report ⟨some index, name, .nameTaken name⟩
      draftAll l given used last image later
    else do
      let stored ← l.keep image index source name
      let others ← draftAll l given (name :: used) last (image + 1) later
      return (stored.map fun name => (index, name)).toList ++ others
  | used, last, image, (index, .image _ _ source none) :: later => do
    let next := ImagePlan.nextNumber given last
    let name := ImagePlan.generatedName next
    let stored ← l.keep image index source name
    let others ← draftAll l given (name :: used) next (image + 1) later
    return (stored.map fun name => (index, name)).toList ++ others
  | used, last, image, _ :: later => draftAll l given used last image later

/-- The names of the images that were stored, by the indexes of their elements. -/
def stored (results : List ImageResult) : List (Nat × Text) :=
  results.filterMap fun r => r.image?.map fun image => (r.index, image.name)

/-- What the results of images add to a draft. -/
def drafted (draft : Draft) (results : List ImageResult) : Draft :=
  draft.extend (results.filterMap ImageResult.image?) []
    (results.filterMap ImageResult.diagnostic?)

theorem drafted_cons (draft : Draft) (r : ImageResult) (results : List ImageResult) :
    drafted draft (r :: results) = drafted (drafted draft [r]) results := by
  simp [drafted, filterMap_cons_toList]

theorem run_store (data : Text) (draft : Draft) :
    run (do
      call (.ofRequest (.store name data))
      return some name) draft =
      (StoredImage.make name data).map fun image =>
        (some image.name, draft.extend [image] [] []) := by
  have hcall := call_store name data draft
  cases hmake : StoredImage.make name data with
  | ok image =>
    rw [hmake] at hcall
    rw [run_bind, run_of_ok hcall, StoredImage.eq_of_make hmake]
    rfl
  | error reason =>
    rw [hmake] at hcall
    rw [run_bind, run_of_error hcall]
    rfl

/-- A picture that was had is encoded and stored, or reported. -/
theorem run_encoded (picture : Picture) (draft : Draft) :
    run (do
      match ← expect index name (picture.encode l.threshold) with
      | none => return none
      | some data =>
        call (.ofRequest (.store name data))
        return some name) draft =
      (l.store name picture).map fun outcome =>
        ((ImageResult.mk index name outcome).image?.map StoredImage.name,
          drafted draft [⟨index, name, outcome⟩]) := by
  rw [run_bind, run_expect, store]
  cases picture.encode l.threshold with
  | ok data =>
    dsimp only
    rw [ok_bind]
    refine (run_store data draft).trans ?_
    cases StoredImage.make name data with
    | ok image => rfl
    | error reason => rfl
  | error reason =>
    dsimp only
    cases Cause.ofFault reason with
    | ok cause => rfl
    | error found => rfl

theorem run_keep (draft : Draft) :
    run (l.keep image index source name) draft =
      (l.acquire image source name).map fun outcome =>
        ((ImageResult.mk index name outcome).image?.map StoredImage.name,
          drafted draft [⟨index, name, outcome⟩]) := by
  have hcancelled : run (do
      report ⟨some index, name, .cancelled⟩
      return (none : Option Text)) draft =
        .ok (none, draft.extend [] [] [⟨some index, name, .cancelled⟩]) := by
    rw [run_bind, run_report]
    rfl
  unfold keep acquire
  by_cases hbefore : l.cancelledBefore image = true
  · rw [if_pos hbefore, if_pos hbefore]
    exact hcancelled
  rw [if_neg hbefore, if_neg hbefore, run_bind, run_expect]
  cases l.find image source with
  | error reason =>
    dsimp only
    cases Cause.ofFault reason with
    | ok cause => rfl
    | error found => rfl
  | ok picture =>
    dsimp only
    rw [ok_bind]
    dsimp only
    by_cases hafter : l.cancelledAfter image = true
    · rw [if_pos hafter, if_pos hafter]
      exact hcancelled
    · rw [if_neg hafter, if_neg hafter]
      exact run_encoded picture draft

/-- An image that is loaded, and those behind it. -/
theorem run_keep_bind {rest : Drafting (List (Nat × Text))}
    {others : Except Fault (List ImageResult)}
    (hrest : ∀ draft, run rest draft =
      others.map fun results => (stored results, drafted draft results)) (draft : Draft) :
    run (do
      let kept ← l.keep image index source name
      let later ← rest
      return (kept.map fun name => (index, name)).toList ++ later) draft =
      (do
        let outcome ← l.acquire image source name
        let results ← others
        return ImageResult.mk index name outcome :: results).map fun results =>
          (stored results, drafted draft results) := by
  rw [run_bind, run_keep]
  cases l.acquire image source name with
  | error reason => rfl
  | ok outcome =>
    simp only [ok_map, ok_bind, run_bind, hrest]
    cases others with
    | error reason => rfl
    | ok results =>
      have hnames : stored (⟨index, name, outcome⟩ :: results) =
          ((ImageResult.mk index name outcome).image?.map fun image =>
            (index, image.name)).toList ++ stored results := filterMap_cons_toList _ _ _
      simp only [ok_map, ok_bind, run_pure, pure_eq_ok, Option.map_map]
      rw [hnames, drafted_cons draft ⟨index, name, outcome⟩ results]
      rfl

theorem acquireAll_load (rest : List ImagePlan) :
    (l.acquireAll image (.load index source name :: rest)).2 = (do
      let outcome ← l.acquire image source name
      let results ← (l.acquireAll (image + 1) rest).2
      return ImageResult.mk index name outcome :: results) := by
  rw [acquireAll]
  cases l.acquire image source name with
  | error reason => rfl
  | ok outcome =>
    dsimp only
    rw [ok_bind]
    cases (l.acquireAll (image + 1) rest).2 <;> rfl

theorem givenNames_cons_subset {given : List Text} {e : Nat × Element}
    {elements : List (Nat × Element)} (h : ImagePlan.givenNames (e :: elements) ⊆ given) :
    ImagePlan.givenNames elements ⊆ given := by
  unfold ImagePlan.givenNames at h
  rw [filterMap_cons_toList] at h
  exact fun name hname => h (List.mem_append_right _ hname)

/-- The loop names, loads and stores as the plan of the names and the acquisition of the images do,
    if its used names are those that the plan has seen, as far as they are given. -/
theorem run_draftAll {given used seen : List Text} {elements : List (Nat × Element)}
    (hused : ∀ name ∈ given, name ∈ used ↔ name ∈ seen)
    (hgiven : ImagePlan.givenNames elements ⊆ given) (last image : Nat) (draft : Draft) :
    run (l.draftAll given used last image elements) draft =
      (l.acquireAll image (ImagePlan.plan given seen last elements)).2.map fun results =>
        (stored results, drafted draft results) := by
  fun_induction ImagePlan.plan given seen last elements generalizing used image draft with
  | case1 seen last => simp [draftAll, acquireAll, stored, drafted]
  | case2 seen last i x y source name rest htaken ih =>
    have hname : name ∈ used := (hused name (hgiven List.mem_cons_self)).mpr htaken
    rw [draftAll, if_pos hname, run_bind, run_report, ok_bind,
      ih hused (givenNames_cons_subset hgiven), acquireAll]
    dsimp only
    cases (l.acquireAll image (ImagePlan.plan given seen last rest)).2 with
    | error reason => rfl
    | ok results =>
      have hreport : drafted draft [⟨i, name, .skipped (.nameTaken name)⟩] =
          draft.extend [] [] [⟨some i, name, .nameTaken name⟩] := rfl
      rw [← hreport]
      exact congrArg (fun d => Except.ok (stored results, d)) (drafted_cons draft _ results).symm
  | case3 seen last i x y source name rest hfirst ih =>
    have hmem : name ∈ given := hgiven List.mem_cons_self
    have hname : name ∉ used := fun hname => hfirst ((hused name hmem).mp hname)
    have hlater : ∀ other ∈ given, other ∈ name :: used ↔ other ∈ name :: seen := by
      intro other hother
      rw [List.mem_cons, List.mem_cons, hused other hother]
    rw [draftAll, if_neg hname, acquireAll_load]
    exact run_keep_bind (ih hlater (givenNames_cons_subset hgiven) (image + 1)) draft
  | case4 seen last i x y source rest next =>
    rename_i ih
    -- a generated name is given to no image, so that it is used up makes no difference
    have hlater : ∀ other ∈ given,
        other ∈ ImagePlan.generatedName next :: used ↔ other ∈ seen := by
      intro other hother
      have hne : other ≠ ImagePlan.generatedName next := by
        rintro rfl
        exact (ImagePlan.isLeast_nextNumber given last).1.2 hother
      rw [List.mem_cons, or_iff_right hne, hused other hother]
    rw [draftAll, acquireAll_load]
    exact run_keep_bind (ih hlater (givenNames_cons_subset hgiven) (image + 1)) draft
  | case5 seen last e rest hnamed hunnamed ih =>
    rw [draftAll]
    · exact ih hused (givenNames_cons_subset hgiven) image draft
    · exact hnamed
    · exact hunnamed

/-- So the loop over all elements is the plan of the design and the acquisition of its images. -/
theorem run_ofElements (l : Loading) (elements : List (Nat × Element)) (draft : Draft) :
    run (l.draftAll (ImagePlan.givenNames elements) [] 0 0 elements) draft =
      (l.acquireAll 0 (ImagePlan.ofElements elements)).2.map fun results =>
        (stored results, drafted draft results) :=
  run_draftAll (fun _ _ => Iff.rfl) (List.Subset.refl _) 0 0 draft

end Loading

/-! ## Drawing -/

namespace Element

/-- Draws an element, or reports what is wrong with it. An image is drawn if it is stored. -/
def draft (stored : Option Text) (index : Nat) (e : Element) : Drafting Unit :=
  reporting index e.typeName () <|
    match e.figure? stored with
    | none => return ()
    | some figure => call (.ofRequest (.draw figure))

/-- Draws elements one after the other; `stored` are the names under which images are stored, by the
    indexes of their elements. -/
def draftAll (stored : List (Nat × Text)) : List (Nat × Element) → Drafting Unit
  | [] => return ()
  | (index, e) :: later => do
    e.draft (stored.lookup index) index
    draftAll stored later

end Element

namespace DesignConversion

/-- What the outcomes of elements add to a draft. -/
def drafted (draft : Draft) (layout : List (Nat × Element × ElementOutcome)) : Draft :=
  draft.extend [] (layout.filterMap fun l => l.2.2.record?) (layout.filterMap layoutDiagnostic?)

theorem lookup_stored (results : List ImageResult) (index : Nat) :
    (Loading.stored results).lookup index = storedName? results index := by
  unfold Loading.stored storedName?
  induction results with
  | nil => rfl
  | cons r later ih =>
    rw [List.findSome?_cons, filterMap_cons_toList, List.lookup_append, ih]
    cases r.image? with
    | none =>
      rw [Option.map_none, Option.map_none, ite_self]
      rfl
    | some image =>
      by_cases hindex : r.index = index
      · simp [hindex]
      · have hne : (index == r.index) = false := beq_eq_false_iff_ne.mpr (Ne.symm hindex)
        simp [List.lookup_cons, hindex, hne]

theorem drafted_cons (draft : Draft) (l : Nat × Element × ElementOutcome)
    (layout : List (Nat × Element × ElementOutcome)) :
    drafted draft (l :: layout) = drafted (drafted draft [l]) layout := by
  simp [drafted, filterMap_cons_toList]

theorem run_element (stored : Option Text) (index : Nat) (e : Element) (draft : Draft) :
    run (e.draft stored index) draft =
      (e.outcome stored).map fun outcome => ((), drafted draft [(index, e, outcome)]) := by
  unfold Element.draft Element.outcome
  cases e.figure? stored with
  | none =>
    dsimp only
    rw [run_of_ok (reporting_pure _ _ _ () draft)]
    simp [drafted, filterMap_cons_toList, ElementOutcome.record?, layoutDiagnostic?]
  | some figure =>
    have hcall := call_draw figure draft
    dsimp only
    cases hrecord : figure.record with
    | ok record =>
      rw [hrecord] at hcall
      exact run_of_ok (reporting_of_ok _ _ _ hcall)
    | error reason =>
      rw [hrecord] at hcall
      rw [run_reporting_of_error index e.typeName () hcall]
      dsimp only
      cases Cause.ofFault reason with
      | ok cause => rfl
      | error found => rfl

theorem run_draw (results : List ImageResult) (elements : List (Nat × Element)) (draft : Draft) :
    run (Element.draftAll (Loading.stored results) elements) draft =
      (draw results elements).map fun layout => ((), drafted draft layout) := by
  unfold draw
  induction elements generalizing draft with
  | nil => simp [Element.draftAll, drafted]
  | cons element later ih =>
    obtain ⟨index, e⟩ := element
    rw [Element.draftAll, run_bind, lookup_stored, run_element, List.mapM_cons]
    dsimp only
    cases e.outcome (storedName? results index) with
    | error reason => rfl
    | ok outcome =>
      simp only [ok_map, ok_bind, ih]
      cases later.mapM fun e => do return (e.1, e.2, ← e.2.outcome (storedName? results e.1)) with
      | error reason => rfl
      | ok layout => exact congrArg (fun d => Except.ok ((), d)) (drafted_cons draft _ layout).symm

/-! ## The whole design -/

/-- The course of a design. -/
def draft (loading : Loading) (placed : List PlacedElement) : Drafting Unit := do
  let elements ← PlacedElement.draftAll 0 placed
  let stored ← loading.draftAll (ImagePlan.givenNames elements) [] 0 0 elements
  Element.draftAll stored elements

/-- What is added in the three passes is the label and the diagnostics of the design. -/
theorem drafted_all (d : DesignConversion) :
    drafted (Loading.drafted ((Draft.empty d.config).extend [] [] (unresolvedFrom 0 d.elements))
      d.images) d.layout = ⟨d.label, d.diagnostics⟩ := by
  simp [drafted, Loading.drafted, unresolvedFrom, Draft.extend, Draft.empty, Label.empty, label,
    diagnostics]

/-- The course of a design ends as its conversion does, with its label and its diagnostics. -/
theorem run_draft (loading : Loading) (config : Text) (placed : List PlacedElement) :
    run (draft loading placed) (.empty config) =
      (ofLoading loading config placed).2.map fun d => ((), ⟨d.label, d.diagnostics⟩) := by
  unfold draft
  rw [run_bind, run_resolutions]
  cases helements : placed.mapM fun e => do return (e, ← resolution e) with
  | error reason =>
    unfold ofLoading
    rw [helements]
    rfl
  | ok elements =>
    have hloading : (ofLoading loading config placed).2 = (do
        let images ← (loading.acquireAll 0 (ImagePlan.ofElements (resolved elements))).2
        let layout ← draw images (resolved elements)
        return DesignConversion.mk config elements images layout) := by
      unfold ofLoading
      rw [helements]
    rw [hloading]
    have himages := fun draft => loading.run_ofElements (resolved elements) draft
    simp only [ok_map, ok_bind, run_bind, ← resolved_eq_resolvedFrom, himages]
    cases (loading.acquireAll 0 (ImagePlan.ofElements (resolved elements))).2 with
    | error reason => rfl
    | ok images =>
      simp only [ok_map, ok_bind, run_draw]
      cases draw images (resolved elements) with
      | error reason => rfl
      | ok layout =>
        have hdraft := drafted_all ⟨config, elements, images, layout⟩
        exact congrArg (fun d => Except.ok ((), d)) hdraft

end DesignConversion

end ThermalLabel
