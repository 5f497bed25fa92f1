/-
  The images of a design: loaded, thresholded and stored one after the other.

  What becomes of a planned image depends on its source and name and on how many images are to be
  loaded before it, and on no other image.
-/
import ThermalLabel.Design.Cancellation
import ThermalLabel.Design.Names
import ThermalLabel.Diagnostic
import ThermalLabel.Raster.Threshold
import ThermalLabel.Script.Label

namespace ThermalLabel

/-- How the pictures of a design are found. -/
abbrev Loader := Text → Except LoadFault Picture

/-- What became of an image. -/
inductive ImageOutcome where
  | stored (image : StoredImage)
  | skipped (cause : Cause)
  deriving DecidableEq

/-- An image of a design, its name and what became of it. -/
structure ImageResult where
  index : Nat
  name : Text
  outcome : ImageOutcome
  deriving DecidableEq

namespace ImageResult

/-- The image that was stored. -/
def image? (r : ImageResult) : Option StoredImage :=
  match r.outcome with
  | .stored image => some image
  | .skipped _ => none

/-- The diagnostic of an image, if it was skipped. -/
def diagnostic? (r : ImageResult) : Option Diagnostic :=
  match r.outcome with
  | .stored _ => none
  | .skipped cause => some ⟨some r.index, r.name, cause⟩

end ImageResult

/-- How images are loaded. -/
structure ImageSettings where
  loader : Loader
  threshold : Quantity
  cancellation : Cancellation

/-- A course of image loading: what each image meets, those that are to be loaded being counted
    from 0. A source may have another picture each time it is asked for, and whether loading is
    cancelled is looked up before an image is asked for and after it is loaded. -/
structure Loading where
  loader : (image : Nat) → Loader
  cancelledBefore : (image : Nat) → Bool
  cancelledAfter : (image : Nat) → Bool
  threshold : Quantity

/-- The course of loading in which a source always has the same picture and a cancellation lasts. -/
def ImageSettings.loading (s : ImageSettings) : Loading where
  loader _ := s.loader
  cancelledBefore image := s.cancellation.after image
  cancelledAfter image := s.cancellation.after (image + 1)
  threshold := s.threshold

namespace Loading

/-- What becomes of a loaded picture. -/
def store (l : Loading) (name : Text) (picture : Picture) : Except Fault ImageOutcome :=
  match picture.encode l.threshold with
  | .ok data => (StoredImage.make name data).map .stored
  | .error reason => (Cause.ofFault reason).map .skipped

/-- The picture at a source. -/
def find (l : Loading) (image : Nat) (source : Quantity) : Except Fault Picture := do
  (l.loader image (← source.literal)).mapError .loading

/-- What becomes of an image before which `image` images are to be loaded. -/
def acquire (l : Loading) (image : Nat) (source : Quantity) (name : Text) :
    Except Fault ImageOutcome :=
  if l.cancelledBefore image then .ok (.skipped .cancelled)
  else
    match l.find image source with
    | .error reason => (Cause.ofFault reason).map .skipped
    | .ok picture =>
      if l.cancelledAfter image then .ok (.skipped .cancelled)
      else l.store name picture

/-- The sources that are asked for, and what becomes of the planned images. A fault that ends
    the run keeps the sources asked for so far. -/
def acquireAll (l : Loading) (image : Nat) :
    List ImagePlan → List Quantity × Except Fault (List ImageResult)
  | [] => ([], .ok [])
  | .taken i name :: rest =>
    let others := acquireAll l image rest
    (others.1, others.2.map (⟨i, name, .skipped (.nameTaken name)⟩ :: ·))
  | .load i source name :: rest =>
    let asked := if l.cancelledBefore image then [] else [source]
    match l.acquire image source name with
    | .error reason => (asked, .error reason)
    | .ok outcome =>
      let others := acquireAll l (image + 1) rest
      (asked ++ others.1, others.2.map (⟨i, name, outcome⟩ :: ·))

end Loading

end ThermalLabel
