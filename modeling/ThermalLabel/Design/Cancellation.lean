/-
  Cancellation of image loading.

  Once the images of a design are cancelled, no further image is loaded, and one whose loading
  is under way is discarded. The moment is told by the number of images asked for.
-/

namespace ThermalLabel

/-- When image loading is cancelled. -/
inductive Cancellation where
  | never
  /-- Before the first image. -/
  | before
  /-- While the image with this number, from 1, is loaded. -/
  | during (call : Nat)
  deriving DecidableEq

namespace Cancellation

/-- Whether loading is cancelled after a number of images have been asked for. -/
def after : Cancellation → (calls : Nat) → Bool
  | never, _ => false
  | before, _ => true
  | during call, calls => call ≤ calls

end Cancellation

end ThermalLabel
