/-
  The conversion of a label design into a label.

  First every placed element is resolved, then the images are stored, then the elements are
  drawn in order. An element that cannot be resolved, whose image is not stored or that does not
  fit its fields is skipped; each skipped element has one diagnostic, and an image that was not
  stored is not drawn.
-/
import ThermalLabel.Design.Images

namespace ThermalLabel

namespace Element

/-- The figure that draws an element; `stored` is the name of its image, if that was stored. -/
def figure? (stored : Option Text) : Element → Option Figure
  | text x y body => some (.text (.ofReal x) (.ofReal y) body)
  | barcode x y data symbology => some (.barcode (.ofReal x) (.ofReal y) data symbology)
  | box x y width height thickness =>
    some (.box (.ofReal x) (.ofReal y) (.ofReal width) (.ofReal height) (.ofReal thickness))
  | circle x y diameter thickness =>
    some (.circle (.ofReal x) (.ofReal y) (.ofReal diameter) (.ofReal thickness))
  | line x y width height thickness =>
    some (.line (.ofReal x) (.ofReal y) (.ofReal width) (.ofReal height) (.ofReal thickness))
  | image x y _ _ => stored.map fun name => .recallImage (.ofReal x) (.ofReal y) name

end Element

/-- What became of a resolved element. -/
inductive ElementOutcome where
  | drawn (record : Record)
  | skipped (cause : Cause)
  /-- An image that was not stored. -/
  | silent
  deriving DecidableEq

namespace ElementOutcome

/-- The record that was drawn. -/
def record? : ElementOutcome → Option Record
  | drawn record => some record
  | _ => none

end ElementOutcome

namespace Element

/-- What becomes of a resolved element. -/
def outcome (stored : Option Text) (e : Element) : Except Fault ElementOutcome :=
  match e.figure? stored with
  | none => .ok .silent
  | some figure =>
    match figure.record with
    | .ok record => .ok (.drawn record)
    | .error reason => (Cause.ofFault reason).map .skipped

end Element

/-- What became of a design. -/
structure DesignConversion where
  config : Text
  /-- The placed elements with their resolutions. -/
  elements : List (PlacedElement × Except Cause Element)
  images : List ImageResult
  /-- The resolved elements by index. -/
  layout : List (Nat × Element × ElementOutcome)

namespace DesignConversion

/-! ## The three passes -/

/-- The resolution of a placed element, or why it is skipped. -/
def resolution (e : PlacedElement) : Except Fault (Except Cause Element) :=
  match e.resolve with
  | .ok element => .ok (.ok element)
  | .error reason => (Cause.ofFault reason).map .error

/-- The elements that were resolved, by index. -/
def resolved (elements : List (PlacedElement × Except Cause Element)) : List (Nat × Element) :=
  elements.zipIdx.filterMap fun e => e.1.2.toOption.map fun element => (e.2, element)

/-- The name of the image stored for an index. -/
def storedName? (images : List ImageResult) (index : Nat) : Option Text :=
  images.findSome? fun r => if r.index = index then r.image?.map StoredImage.name else none

/-- Draws the resolved elements. -/
def draw (images : List ImageResult) (elements : List (Nat × Element)) :
    Except Fault (List (Nat × Element × ElementOutcome)) :=
  elements.mapM fun e => do return (e.1, e.2, ← e.2.outcome (storedName? images e.1))

/-- The sources of the images that are asked for, and what becomes of the design, in a course of
    image loading. -/
def ofLoading (loading : Loading) (config : Text) (placed : List PlacedElement) :
    List Quantity × Except Fault DesignConversion :=
  match placed.mapM fun e => do return (e, ← resolution e) with
  | .error reason => ([], .error reason)
  | .ok elements =>
    let (asked, images) := loading.acquireAll 0 (ImagePlan.ofElements (resolved elements))
    (asked, do
      let images ← images
      return ⟨config, elements, images, ← draw images (resolved elements)⟩)

/-- The sources of the images that are asked for, and what becomes of the design. -/
def ofElements (settings : ImageSettings) (config : Text) (placed : List PlacedElement) :
    List Quantity × Except Fault DesignConversion :=
  ofLoading settings.loading config placed

/-! ## Label and diagnostics -/

/-- The label of a design. -/
def label (c : DesignConversion) : Label where
  config := c.config
  images := c.images.filterMap ImageResult.image?
  records := c.layout.filterMap fun l => l.2.2.record?

/-- The script of the label. -/
def script (c : DesignConversion) : Text := c.label.script

/-- The diagnostic of a placed element, if it was not resolved. -/
def resolutionDiagnostic? (index : Nat) : PlacedElement × Except Cause Element → Option Diagnostic
  | (e, .error cause) => some ⟨some index, e.tag, cause⟩
  | (_, .ok _) => none

/-- The diagnostic of a resolved element, if it could not be drawn. -/
def layoutDiagnostic? : Nat × Element × ElementOutcome → Option Diagnostic
  | (index, e, .skipped cause) => some ⟨some index, e.typeName, cause⟩
  | _ => none

/-- The diagnostics: those of resolution, of the images and of the drawing. -/
def diagnostics (c : DesignConversion) : List Diagnostic :=
  c.elements.zipIdx.filterMap (fun e => resolutionDiagnostic? e.2 e.1) ++
    c.images.filterMap ImageResult.diagnostic? ++ c.layout.filterMap layoutDiagnostic?

end DesignConversion

end ThermalLabel
