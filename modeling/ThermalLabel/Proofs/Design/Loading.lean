/-
  Images in a course of loading, one after the other.

  What becomes of a planned image is settled by the plan, by the number of images to be loaded
  before it and by what it meets (`acquired_of_acquire`). So a run is the planned images with their
  numbers (`ImagePlan.numbered`), each on its own: their results are those of the run
  (`acquireAll_results`), and the sources asked for are those of the images that are not cancelled
  before (`acquireAll_asked`). A loader that goes by the sources of images refuses them by name
  (`ImageAccess.load_eq_refused_iff`).
-/
import ThermalLabel.Design.Conversion
import ThermalLabel.Proofs.Script.Returns
import ThermalLabel.Raster.Access

namespace ThermalLabel

/-! ## Sources -/

namespace ImageAccess

variable {access : ImageAccess} {source : Text}

theorem load_eq_ok_iff {picture : Picture} :
    access.load source = .ok picture ↔
      ∃ bytes, access.bytes source = .ok bytes ∧ access.decode bytes = .ok picture :=
  mapError_eq_ok_iff.trans bind_eq_ok_iff

/-- Whatever is found wrong with a source, the source is not available, and the message begins with
    it. -/
theorem load_eq_refused_iff {obstacle : LoadObstacle} {message : String} :
    access.load source = .error (.refused obstacle message) ↔
      obstacle = .unavailable ∧ ∃ found told,
        (access.bytes source >>= access.decode) = .error (.refused found told) ∧
          message = "Failed to load image at: " ++ Text.shown (source.take shownLength) ++ " (" ++
            told ++ ")" := by
  unfold load
  rw [mapError_eq_error_iff]
  constructor
  · rintro ⟨reason, hreason, h⟩
    cases reason with
    | refused found told =>
      cases h
      exact ⟨rfl, found, told, hreason, rfl⟩
    | crashed failure => cases h
  · rintro ⟨rfl, found, told, hreason, rfl⟩
    exact ⟨_, hreason, rfl⟩

/-- A failure of another kind is passed on. -/
theorem load_eq_crashed_iff {failure : String} :
    access.load source = .error (.crashed failure) ↔
      (access.bytes source >>= access.decode) = .error (.crashed failure) := by
  unfold load
  rw [mapError_eq_error_iff]
  constructor
  · rintro ⟨reason, hreason, h⟩
    cases reason with
    | refused found told => cases h
    | crashed other =>
      cases h
      exact hreason
  · intro h
    exact ⟨_, h, rfl⟩

end ImageAccess

/-! ## One image -/

namespace Loading

variable {l : Loading} {image : Nat} {source : Quantity} {name : Text} {outcome : ImageOutcome}

/-- All that can become of an image that is to be loaded. -/
inductive Acquired (l : Loading) (image : Nat) (source : Quantity) (name : Text) :
    ImageOutcome → Prop
  | cancelled (set : l.cancelledBefore image ∨ l.cancelledAfter image) :
    l.Acquired image source name (.skipped .cancelled)
  | refused {obstacle : LoadObstacle} {message : String}
    (uncancelled : l.cancelledBefore image = false) :
    l.Acquired image source name (.skipped (.fault (.loading (.refused obstacle message))))
  | stored {picture : Picture} {data : Text} (uncancelled : l.cancelledBefore image = false)
    (found : l.find image source = .ok picture) (kept : l.cancelledAfter image = false)
    (encoded : picture.encode l.threshold = .ok data)
    (made : StoredImage.make name data = .ok ⟨name, data⟩) :
    l.Acquired image source name (.stored ⟨name, data⟩)

@[simp]
theorem find_text (l : Loading) (image : Nat) (t : Text) :
    l.find image (.text t) = (l.loader image t).mapError .loading := rfl

theorem loading_of_find {reason : Fault} (h : l.find image source = .error reason)
    (hkind : reason.diagnosticKind?.isSome) :
    ∃ obstacle message, reason = .loading (.refused obstacle message) := by
  rcases bind_eq_error_iff.mp h with h | ⟨text, -, h⟩
  · unfold Quantity.literal at h
    split at h
    · cases h
    · cases h
      cases hkind
  · cases hanswer : l.loader image text with
    | ok picture =>
      rw [hanswer] at h
      cases h
    | error fault =>
      rw [hanswer] at h
      cases h
      cases fault with
      | refused obstacle message => exact ⟨obstacle, message, rfl⟩
      | crashed failure => cases hkind

end Loading

theorem Threshold.read_eq_error {q : Quantity} {reason : Fault}
    (h : Threshold.read q = .error reason) : reason.diagnosticKind? = none := by
  unfold Threshold.read at h
  split at h
  · split at h
    · cases h
    · cases h
      rfl
  · split at h
    · cases h
    · cases h
      rfl
  · cases h
    rfl

theorem Picture.loading_of_encode {picture : Picture} {threshold : Quantity} {reason : Fault}
    (h : picture.encode threshold = .error reason) (hkind : reason.diagnosticKind?.isSome) :
    ∃ obstacle message, reason = .loading (.refused obstacle message) := by
  rcases bind_eq_error_iff.mp h with h | ⟨_, -, h⟩
  · rcases bind_eq_error_iff.mp h with h | ⟨t, -, h⟩
    · rw [Threshold.read_eq_error h] at hkind
      cases hkind
    · rcases bind_eq_error_iff.mp h with h | ⟨_, -, h⟩
      · cases hrgb : picture.rgb with
        | ok rgb =>
          rw [hrgb] at h
          cases h
        | error fault =>
          rw [hrgb] at h
          cases h
          cases fault with
          | refused obstacle message => exact ⟨obstacle, message, rfl⟩
          | crashed failure => cases hkind
      · cases h
  · cases h

theorem Cause.ofFault_eq_ok_iff {reason : Fault} {cause : Cause} :
    ofFault reason = .ok cause ↔ reason.diagnosticKind?.isSome ∧ cause = .fault reason := by
  unfold ofFault
  split
  · next hkind => simp [hkind, eq_comm]
  · next hkind => simp [hkind]

namespace Loading

variable {l : Loading} {image : Nat} {source : Quantity} {name : Text} {outcome : ImageOutcome}

theorem acquired_of_acquire (h : l.acquire image source name = .ok outcome) :
    l.Acquired image source name outcome := by
  unfold acquire at h
  split at h
  · next hset =>
    cases h
    exact .cancelled (.inl hset)
  next hset =>
  have huncancelled : l.cancelledBefore image = false := eq_false_of_ne_true hset
  split at h
  · next reason hfind =>
    obtain ⟨cause, hcause, rfl⟩ := map_eq_ok_iff.mp h
    obtain ⟨hkind, rfl⟩ := Cause.ofFault_eq_ok_iff.mp hcause
    obtain ⟨obstacle, message, rfl⟩ := loading_of_find hfind hkind
    exact .refused huncancelled
  next picture hfind =>
  split at h
  · next hset =>
    cases h
    exact .cancelled (.inr hset)
  next hset =>
  unfold store at h
  split at h
  · next data hencode =>
    obtain ⟨made, hmake, rfl⟩ := map_eq_ok_iff.mp h
    obtain rfl := StoredImage.eq_of_make hmake
    exact .stored huncancelled hfind (eq_false_of_ne_true hset) hencode hmake
  · next reason hencode =>
    obtain ⟨cause, hcause, rfl⟩ := map_eq_ok_iff.mp h
    obtain ⟨hkind, rfl⟩ := Cause.ofFault_eq_ok_iff.mp hcause
    obtain ⟨obstacle, message, rfl⟩ := Picture.loading_of_encode hencode hkind
    exact .refused huncancelled

end Loading

/-! ## All images -/

/-- The planned images, each with the number of images that are to be loaded before it. -/
def ImagePlan.numbered (image : Nat) : List ImagePlan → List (Nat × ImagePlan)
  | [] => []
  | .taken i name :: rest => (image, .taken i name) :: numbered image rest
  | .load i source name :: rest => (image, .load i source name) :: numbered (image + 1) rest

theorem ImagePlan.map_snd_numbered (image : Nat) (plans : List ImagePlan) :
    (numbered image plans).map Prod.snd = plans := by
  fun_induction numbered image plans with
  | case1 => rfl
  | case2 image i name rest ih => rw [List.map_cons, ih]
  | case3 image i source name rest ih => rw [List.map_cons, ih]

namespace Loading

variable {l : Loading}

/-- What becomes of a planned image before which a number of images are to be loaded. -/
def result (l : Loading) : Nat × ImagePlan → Except Fault ImageResult
  | (_, .taken i name) => .ok ⟨i, name, .skipped (.nameTaken name)⟩
  | (image, .load i source name) => do return ⟨i, name, ← l.acquire image source name⟩

@[simp]
theorem result_load (image i : Nat) (source : Quantity) (name : Text) :
    l.result (image, .load i source name) =
      (l.acquire image source name).map (ImageResult.mk i name) := by
  rw [result]
  cases l.acquire image source name <;> rfl

/-- The element that asks for a picture, with the source it asks for. -/
def request? (l : Loading) : Nat × ImagePlan → Option (Nat × Quantity)
  | (_, .taken ..) => none
  | (image, .load i source _) => if l.cancelledBefore image then none else some (i, source)

theorem request?_eq_some_iff {number i : Nat} {plan : ImagePlan} {source : Quantity} :
    l.request? (number, plan) = some (i, source) ↔
      l.cancelledBefore number = false ∧ ∃ name, plan = .load i source name := by
  cases plan with
  | taken j name => simp [request?]
  | load j other name => cases h : l.cancelledBefore number <;> simp [request?, h]

/-- The results of a run are those of its images, each on its own. -/
theorem acquireAll_results (image : Nat) (plans : List ImagePlan) :
    (l.acquireAll image plans).2 = (ImagePlan.numbered image plans).mapM l.result := by
  fun_induction ImagePlan.numbered image plans with
  | case1 => rfl
  | case2 image i name rest ih =>
    rw [acquireAll, List.mapM_cons, ← ih]
    dsimp only
    cases (l.acquireAll image rest).2 <;> rfl
  | case3 image i source name rest ih =>
    rw [acquireAll, List.mapM_cons, ← ih, result]
    cases l.acquire image source name with
    | error reason => rfl
    | ok outcome =>
      dsimp only
      cases (l.acquireAll (image + 1) rest).2 <;> rfl

/-- A run that ends with all results has asked for the sources of the images that were not cancelled
    before. -/
theorem acquireAll_asked {image : Nat} {plans : List ImagePlan} {results : List ImageResult}
    (h : (l.acquireAll image plans).2 = .ok results) :
    (l.acquireAll image plans).1 =
      ((ImagePlan.numbered image plans).filterMap l.request?).map Prod.snd := by
  fun_induction ImagePlan.numbered image plans generalizing results with
  | case1 => rfl
  | case2 image i name rest ih =>
    obtain ⟨others, hothers, -⟩ := map_eq_ok_iff.mp h
    exact ih hothers
  | case3 image i source name rest ih =>
    rw [acquireAll] at h ⊢
    cases hacquire : l.acquire image source name with
    | error reason =>
      rw [hacquire] at h
      cases h
    | ok outcome =>
      rw [hacquire] at h
      obtain ⟨others, hothers, -⟩ := map_eq_ok_iff.mp h
      dsimp only
      rw [ih hothers, List.filterMap_cons, request?]
      cases l.cancelledBefore image <;> rfl

end Loading

end ThermalLabel
