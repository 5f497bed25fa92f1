/-
  Labels and their scripts.

  A label is a configuration, the images it stores and the records that lay it out. Its script
  puts all images before the layout, so that a record that recalls an image finds it stored. A
  figure or an image that cannot be written leaves the label as it was.
-/
import ThermalLabel.Script.Figure
import ThermalLabel.Text.Word

namespace ThermalLabel

/-- An image in the memory of the printer: its name and its bits in hexadecimal. -/
structure StoredImage where
  name : Text
  data : Text
  deriving DecidableEq

namespace StoredImage

/-- A capital hexadecimal digit. -/
def isHexadecimal (c : Char) : Bool := c.isDigit || ('A' ≤ c && c ≤ 'F')

/-- An image whose name has word characters only and whose data are hexadecimal. -/
def make (name data : Text) : Except Fault StoredImage :=
  if name = [] ∨ ¬ name.all Text.isWord then .error .storedNameNotWord
  else if ¬ data.all isHexadecimal then .error .storedDataNotHexadecimal
  else .ok ⟨name, data⟩

/-- The two lines that store an image. -/
def render (image : StoredImage) : Text :=
  ['I', 'D'] ++ image.name ++ '\r' :: image.data ++ ['\r']

end StoredImage

/-- A label under construction. -/
structure Label where
  config : Text
  images : List StoredImage
  records : List Record
  deriving DecidableEq

/-- A request to a label: to store an image or to draw a figure. -/
inductive LabelRequest where
  | store (name data : Text)
  | draw (figure : Figure)
  deriving DecidableEq

namespace Label

/-- The configuration that sets the dot size to 1 by 1. -/
def defaultConfig : Text := ['D', '1', '1']

/-- A label with nothing on it. -/
def empty (config : Text) : Label := ⟨config, [], []⟩

/-- The label after a request. -/
def perform (label : Label) : LabelRequest → Except Fault Label
  | .store name data => do
    let image ← StoredImage.make name data
    return { label with images := label.images ++ [image] }
  | .draw figure => do
    let record ← figure.record
    return { label with records := label.records ++ [record] }

/-- The label after several requests, of which those that fail are left out. -/
def performAll (label : Label) (requests : List LabelRequest) : Label :=
  requests.foldl (fun l request => (l.perform request).toOption.getD l) label

@[simp]
theorem performAll_cons (label : Label) (request : LabelRequest) (requests : List LabelRequest) :
    label.performAll (request :: requests) =
      ((label.perform request).toOption.getD label).performAll requests := rfl

/-- The lines that store the images. -/
def imageLines (label : Label) : Text := label.images.flatMap StoredImage.render

/-- The lines of the layout. -/
def layoutLines (label : Label) : Text := label.records.flatMap Record.render

/-- The script that prints the label. -/
def script (label : Label) : Text :=
  ['\x02', 'L', '\r'] ++ label.config ++ '\r' :: label.imageLines ++ label.layoutLines ++
    ['E', '\r']

end Label

end ThermalLabel
