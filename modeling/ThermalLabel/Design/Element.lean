/-
  Elements of a label design.

  A placed element is a tag, a position and a size as they are given, and attributes. Its
  resolution is one of six elements with its numbers read as doubles, or says why there is
  none. An attribute that is drawn as text may be of any kind; the symbology and the name of an
  image have to be texts, and so has the source once the image is asked for. A tag is known in
  letters of either case, with or without the prefix of the design surface.
-/
import ThermalLabel.Pixels
import ThermalLabel.Script.Figure
import ThermalLabel.Text.Word

namespace ThermalLabel

/-- An element as a design surface hands it over. -/
structure PlacedElement where
  tag : Text
  left : Quantity
  top : Quantity
  width : Quantity
  height : Quantity
  attributes : List (Text × Quantity)
  deriving DecidableEq

/-- An element with its attributes read. -/
inductive Element where
  | text (x y : Binary64) (body : Text)
  | barcode (x y : Binary64) (data symbology : Text)
  | box (x y width height thickness : Binary64)
  | circle (x y diameter thickness : Binary64)
  | line (x y width height thickness : Binary64)
  | image (x y : Binary64) (source : Quantity) (name : Option Text)
  deriving DecidableEq

/-- The kinds of elements. -/
inductive ElementKind where
  | text
  | barcode
  | box
  | circle
  | line
  | image
  deriving DecidableEq

namespace Element

/-- The name of an element's kind in diagnostics. -/
def typeName : Element → Text
  | text .. => "TextElement".toList
  | barcode .. => "BarcodeElement".toList
  | box .. => "BoxElement".toList
  | circle .. => "CircleElement".toList
  | line .. => "LineElement".toList
  | image .. => "ImageElement".toList

end Element

namespace ElementKind

/-- The tags of elements, in small letters. -/
def tags : List (Text × ElementKind) :=
  [("text".toList, text), ("zpl-text".toList, text),
    ("barcode".toList, barcode), ("zpl-barcode".toList, barcode),
    ("box".toList, box), ("zpl-graphic-box".toList, box),
    ("circle".toList, circle), ("zpl-graphic-circle".toList, circle),
    ("diagonal-line".toList, line), ("zpl-graphic-diagonal-line".toList, line),
    ("image".toList, image), ("zpl-image".toList, image)]

/-- The kind of element that a tag names. -/
def ofTag? (tag : Text) : Option ElementKind := tags.lookup (Text.lowercase tag)

end ElementKind

namespace Quantity

/-- Missing, empty or zero: an attribute that counts as not given. -/
def isVoid : Quantity → Bool
  | number (.integer n) => n = 0
  | number (.real (.finite _ units _)) => units = 0
  | number (.real _) => false
  | flag b => !b
  | text t => t = []
  | missing => true

/-- A quantity as the text of an attribute. -/
def attributeText : Quantity → Text
  | number n => n.text
  | flag b => flagText b
  | text t => t
  | missing => []

end Quantity

namespace PlacedElement

/-- An attribute, if it is given and not void. -/
def attribute? (e : PlacedElement) (name : String) : Option Quantity :=
  (e.attributes.lookup name.toList).filter fun q => !q.isVoid

/-- An attribute as the text that is drawn; empty if it is not given. -/
def drawnText (e : PlacedElement) (name : String) : Text :=
  ((e.attribute? name).map Quantity.attributeText).getD []

/-- The width or the height of an element that needs it. -/
def size (e : PlacedElement) (dimension : String) (given : Quantity) : Except Fault Binary64 :=
  if given = .missing ∨ given = .text [] then
    .error (.sizeMissing (Text.lowercase e.tag) dimension)
  else given.pixels

/-- The thickness of an element. -/
def thickness (e : PlacedElement) : Except Fault Binary64 :=
  ((e.attribute? "thickness").getD (.text ['1'])).pixels

/-- The symbology of a barcode; the name of the QR code is known in either case. -/
def symbology (e : PlacedElement) : Except Fault Text :=
  match (e.attribute? "type").getD (.text Figure.defaultSymbology) with
  | .text given =>
    .ok (if Text.lowercase given = Figure.qrCodeName then Figure.qrCodeName else given)
  | _ => .error .symbologyNotText

/-- The source of an image. -/
def source (e : PlacedElement) : Except Fault Quantity :=
  (e.attribute? "src").elim (.error (.sourceMissing (Text.lowercase e.tag))) .ok

/-- The name that an image is given, if any. -/
def imageName (e : PlacedElement) : Except Fault (Option Text) :=
  match e.attribute? "image-name" with
  | none => .ok none
  | some given => do
    let name ← given.literal
    if name.all Text.isWord then return some name else throw (.notImageName name)

/-- The element that a placed element is at a coordinate. -/
def resolveAt (e : PlacedElement) (x y : Binary64) : Except Fault Element :=
  match ElementKind.ofTag? e.tag with
  | none => .error (.unknownTag e.tag)
  | some .text => .ok (.text x y (e.drawnText "text"))
  | some .barcode => do return .barcode x y (e.drawnText "data") (← e.symbology)
  | some .box => do
    let width ← e.size "width" e.width
    let height ← e.size "height" e.height
    return .box x y width height (← e.thickness)
  | some .circle => do
    let diameter ← e.size "width" e.width
    return .circle x y diameter (← e.thickness)
  | some .line => do
    let width ← e.size "width" e.width
    let height ← e.size "height" e.height
    return .line x y width height (← e.thickness)
  | some .image => do
    let source ← e.source
    return .image x y source (← e.imageName)

/-- The element that a placed element is. -/
def resolve (e : PlacedElement) : Except Fault Element := do
  let x ← e.left.pixels
  let y ← e.top.pixels
  e.resolveAt x y

end PlacedElement

end ThermalLabel
