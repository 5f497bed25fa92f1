/-
  The way from the source of an image to its picture.

  A source with a scheme is fetched, and every other source is the path of a file, in which a home
  directory may be named. Fetching, home directories, files and image formats are the matter of
  others (`ImageAccess`). What they find wrong with a source is told as one fault that names the
  source; where one of them fails in a way of its own, the failure is passed on.
-/
import ThermalLabel.Raster.Threshold

namespace ThermalLabel

/-- What is at hand for loading images. -/
structure ImageAccess where
  /-- The bytes behind a locator. -/
  fetch : Text → Except LoadFault Bytes
  /-- A path with its home directory written out. -/
  expandHome : Text → Text
  /-- The bytes of a file. -/
  read : Text → Except LoadFault Bytes
  /-- The picture that bytes hold. -/
  decode : Bytes → Except LoadFault Picture

namespace ImageAccess

/-- The source has a scheme and is no path. -/
def hasScheme (source : Text) : Bool :=
  (Text.cut? [':', '/', '/'] source).isSome || ['d', 'a', 't', 'a', ':'].isPrefixOf source

/-- How much of a source a message shows. -/
def shownLength : Nat := 80

/-- The fault of a source, from what was found wrong with it. -/
def sourceFault (source : Text) : LoadFault → LoadFault
  | .refused _ message =>
    .refused .unavailable
      ("Failed to load image at: " ++ Text.shown (source.take shownLength) ++ " (" ++ message ++
        ")")
  | .crashed failure => .crashed failure

/-- The bytes that a source leads to. -/
def bytes (access : ImageAccess) (source : Text) : Except LoadFault Bytes :=
  if hasScheme source then access.fetch source else access.read (access.expandHome source)

/-- The picture that a source leads to. -/
def load (access : ImageAccess) (source : Text) : Except LoadFault Picture :=
  (access.bytes source >>= access.decode).mapError (sourceFault source)

end ImageAccess

end ThermalLabel
